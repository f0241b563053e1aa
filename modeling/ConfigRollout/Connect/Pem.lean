import ConfigRollout.Data.Base64
import ConfigRollout.Text.Escaped
import ConfigRollout.Text.WhiteSpace

/-!
# PEM blocks

Certificates and keys reach the client as PEM text: base64 between a `-----BEGIN T-----` and a
`-----END T-----` line. Two readers are modelled, because the client uses both.

`parseBlocks` reads certificate authority bundles. It looks for the markers anywhere in the
bytes, not by lines: `-----BEGIN `, then the tag up to `-----`, blanks, the payload up to
`-----END `, and the end tag up to `-----`. Its marker search resets its count on a mismatch
without looking at the mismatched byte again, so a marker right after a partial one
(`------BEGIN `) is missed. A payload with a blank line has headers before it. Every block
must have equal, non-empty tags and a payload of padded base64, once each line is trimmed at
its end; bytes after the last block are ignored.

`readSections` reads a client identity line by line, a line ending at a line feed or a
carriage return. A line that starts with `-----BEGIN ` must end in exactly five dashes
(blanks aside) and opens a section; a line that starts with the matching end marker closes
it. Sections of an unknown type are skipped; the others are decoded. Lines outside sections
are ignored, and a section still open at the end fails.
-/

set_option autoImplicit false

namespace ConfigRollout.Connect

/-! ## UTF-8 -/

/-- The length of a well-formed UTF-8 sequence at the head of some bytes; otherwise the
number of bytes it spans before it goes wrong, none when the bytes end inside it. -/
def utf8Step : List UInt8 → Except (Option Nat) Nat
  | [] => .ok 0
  | b :: rest =>
    let cont (x : UInt8) : Bool := 0x80 ≤ x && x ≤ 0xBF
    if b < 0x80 then .ok 1
    else if 0xC2 ≤ b && b ≤ 0xDF then
      match rest with
      | [] => .error none
      | c :: _ => if cont c then .ok 2 else .error (some 1)
    else if 0xE0 ≤ b && b ≤ 0xEF then
      let (lo, hi) : UInt8 × UInt8 :=
        if b == 0xE0 then (0xA0, 0xBF) else if b == 0xED then (0x80, 0x9F) else (0x80, 0xBF)
      match rest with
      | [] => .error none
      | c :: rest' =>
        if !(lo ≤ c && c ≤ hi) then .error (some 1)
        else match rest' with
          | [] => .error none
          | d :: _ => if cont d then .ok 3 else .error (some 2)
    else if 0xF0 ≤ b && b ≤ 0xF4 then
      let (lo, hi) : UInt8 × UInt8 :=
        if b == 0xF0 then (0x90, 0xBF) else if b == 0xF4 then (0x80, 0x8F) else (0x80, 0xBF)
      match rest with
      | [] => .error none
      | c :: rest' =>
        if !(lo ≤ c && c ≤ hi) then .error (some 1)
        else match rest' with
          | [] => .error none
          | d :: rest'' =>
            if !cont d then .error (some 2)
            else match rest'' with
              | [] => .error none
              | e :: _ => if cont e then .ok 4 else .error (some 3)
    else .error (some 1)

/-- Where some bytes stop being UTF-8: the length of the valid prefix, and the length of the
bad sequence (none when the bytes end inside a sequence). -/
def utf8Fault? (bytes : List UInt8) : Option (Nat × Option Nat) :=
  go bytes.length 0 bytes
where
  go : Nat → Nat → List UInt8 → Option (Nat × Option Nat)
    | 0, _, _ => none
    | _ + 1, _, [] => none
    | fuel + 1, offset, bs =>
      match utf8Step bs with
      | .ok n => go fuel (offset + n) (bs.drop n)
      | .error len => some (offset, len)

/-- The description of a UTF-8 fault. -/
def utf8FaultText : Nat × Option Nat → String
  | (valid, some len) =>
    "invalid utf-8 sequence of " ++ toString len ++ " bytes from index " ++ toString valid
  | (valid, none) => "incomplete utf-8 byte sequence from index " ++ toString valid

/-- Bytes as text, each bad sequence replaced by U+FFFD. -/
def lossyText (bytes : List UInt8) : String :=
  go bytes.length bytes ""
where
  go : Nat → List UInt8 → String → String
    | 0, _, acc => acc
    | _ + 1, [], acc => acc
    | fuel + 1, bs, acc =>
      match utf8Step bs with
      | .ok n =>
        let piece := String.fromUTF8? (ByteArray.mk (bs.take n).toArray)
        go fuel (bs.drop n) (acc ++ piece.getD "�")
      | .error (some n) => go fuel (bs.drop n) (acc.push '�')
      | .error none => acc.push '�'

/-- Bytes that are UTF-8, as text. -/
def utf8Text (bytes : List UInt8) : Except (Nat × Option Nat) String :=
  match utf8Fault? bytes with
  | some fault => .error fault
  | none => .ok (lossyText bytes)

/-! ## Certificate bundles -/

/-- Looks for a marker: the bytes before it and those after it. A byte that breaks a partial
match restarts the count without being compared again. -/
def readUntil (marker : List UInt8) (input : List UInt8) : Option (List UInt8 × List UInt8) :=
  go input 0 0
where
  go : List UInt8 → Nat → Nat → Option (List UInt8 × List UInt8)
    | [], _, _ => none
    | b :: rest, i, found =>
      let found := if marker[found]? == some b then found + 1 else 0
      if found == marker.length then
        some ((input.take (i + 1 - marker.length)), rest)
      else go rest (i + 1) found

/-- Drops leading blanks: spaces, tabs, line feeds and carriage returns. -/
def skipBlanks (input : List UInt8) : List UInt8 :=
  input.dropWhile (fun b => b == 32 || b == 9 || b == 10 || b == 13)

/-- The bytes of an ASCII text. -/
def asciiBytes (s : String) : List UInt8 := s.toUTF8.toList

/-- The parts of one block as found: begin tag, headers, payload and end tag. -/
structure Block where
  beginTag : List UInt8
  headers : List UInt8
  payload : List UInt8
  endTag : List UInt8
  deriving DecidableEq, Repr, Inhabited

/-- Finds the next block and what follows it. -/
def nextBlock? (input : List UInt8) : Option (Block × List UInt8) := do
  let (_, afterBegin) ← readUntil (asciiBytes "-----BEGIN ") input
  let (beginTag, rest) ← readUntil (asciiBytes "-----") afterBegin
  let rest := skipBlanks rest
  let (payload, rest) ← readUntil (asciiBytes "-----END ") rest
  let (headers, data) :=
    match readUntil [10, 10] payload with
    | some (headers, data) => (headers, data)
    | none =>
      match readUntil [13, 10, 13, 10] payload with
      | some (headers, data) => (headers, data)
      | none => ([], payload)
  let (endTag, rest) ← readUntil (asciiBytes "-----") rest
  pure (⟨beginTag, headers, data, endTag⟩, skipBlanks rest)

/-- Why a certificate bundle does not read. -/
inductive PemError where
  | mismatchedTags (first second : String)
  | missingBeginTag
  | missingEndTag
  /-- A payload that is not padded base64. -/
  | invalidData (reason : Base64.DecodeError)
  | invalidHeader (line : String)
  /-- Text that is not UTF-8: where it stops being so. -/
  | notUtf8 (fault : Nat × Option Nat)
  deriving DecidableEq, Repr, Inhabited

/-- The error's description. -/
def PemError.message : PemError → String
  | .mismatchedTags a b => "mismatching BEGIN (\"" ++ a ++ "\") and END (\"" ++ b ++ "\") tags"
  | .missingBeginTag => "missing BEGIN tag"
  | .missingEndTag => "missing END tag"
  | .invalidData e => "invalid data: " ++ e.message
  | .invalidHeader line => "invalid header: " ++ line
  | .notUtf8 fault => "invalid utf-8 value: " ++ utf8FaultText fault

/-- The errors beneath the error. -/
def PemError.causes : PemError → List String
  | .invalidData e => [e.message]
  | .notUtf8 fault => [utf8FaultText fault]
  | _ => []

/-- A decoded block: its tag and its contents. -/
structure Pem where
  tag : String
  contents : List UInt8
  deriving DecidableEq, Repr, Inhabited

/-- The lines of a text, each without its line feed and a carriage return before it. -/
def textLines (s : String) : List String :=
  let parts := s.splitOn "\n"
  let parts := if parts.getLast? == some "" then parts.dropLast else parts
  parts.map (fun l => if l.endsWith "\r" then String.ofList l.toList.dropLast else l)

/-- A text without the White_Space characters at its end. -/
def trimEnd (s : String) : String :=
  String.ofList (s.toList.reverse.dropWhile Text.isWhiteSpace).reverse

/-- Checks the header lines of a block: each needs a colon. -/
def checkHeaders : List String → Except PemError Unit
  | [] => .ok ()
  | line :: rest => if line.contains ':' then checkHeaders rest else .error (.invalidHeader line)

/-- Decodes a found block. -/
def Block.decode (b : Block) : Except PemError Pem := do
  let text (bytes : List UInt8) : Except PemError String :=
    (utf8Text bytes).mapError PemError.notUtf8
  let tag ← text b.beginTag
  if tag.isEmpty then throw .missingBeginTag
  let tagEnd ← text b.endTag
  if tagEnd.isEmpty then throw .missingEndTag
  if tag != tagEnd then throw (.mismatchedTags tag tagEnd)
  let raw ← text b.payload
  let data := String.join ((textLines raw).map trimEnd)
  let contents ← (Base64.decodeText data).mapError PemError.invalidData
  let headers ← text b.headers
  checkHeaders ((textLines headers).filter (!·.isEmpty))
  pure ⟨tag, contents⟩

/-- Reads every block of a bundle, in order; the first bad block fails. -/
def parseBlocks (input : List UInt8) : Except PemError (List Pem) :=
  go (input.length + 1) input
where
  go : Nat → List UInt8 → Except PemError (List Pem)
    | 0, _ => .ok []
    | _ + 1, [] => .ok []
    | fuel + 1, bytes =>
      match nextBlock? bytes with
      | none => .ok []
      | some (block, rest) => do
        let pem ← block.decode
        pure (pem :: (← go fuel rest))

/-! ## Identity sections -/

/-- The kinds of section the line reader knows. -/
inductive SectionKind where
  | certificate
  | publicKey
  | rsaPrivateKey
  | privateKey
  | ecPrivateKey
  | crl
  | csr
  | encryptedPrivateKey
  | echConfigList
  deriving DecidableEq, Repr, Inhabited

/-- The kind a section type names. -/
def SectionKind.ofType? (ty : List UInt8) : Option SectionKind :=
  match String.fromUTF8? (ByteArray.mk ty.toArray) with
  | some "CERTIFICATE" => some .certificate
  | some "PUBLIC KEY" => some .publicKey
  | some "RSA PRIVATE KEY" => some .rsaPrivateKey
  | some "PRIVATE KEY" => some .privateKey
  | some "EC PRIVATE KEY" => some .ecPrivateKey
  | some "X509 CRL" => some .crl
  | some "CERTIFICATE REQUEST" => some .csr
  | some "ENCRYPTED PRIVATE KEY" => some .encryptedPrivateKey
  | some "ECHCONFIG" => some .echConfigList
  | _ => none

/-- Splits bytes into lines, each keeping the line feed or carriage return that ends it. -/
def byteLines (bytes : List UInt8) : List (List UInt8) :=
  go bytes.length bytes []
where
  go : Nat → List UInt8 → List UInt8 → List (List UInt8)
    | 0, _, acc => if acc.isEmpty then [] else [acc.reverse]
    | _ + 1, [], acc => if acc.isEmpty then [] else [acc.reverse]
    | fuel + 1, b :: rest, acc =>
      if b == 10 || b == 13 then (b :: acc).reverse :: go fuel rest []
      else go fuel rest (b :: acc)

/-- Whether a byte is a blank at the end of a line. -/
def isLineBlank (b : UInt8) : Bool := b == 10 || b == 13 || b == 32

/-- A begin line's type: the bytes between `-----BEGIN ` and the trailing dashes, when exactly
five dashes end it, blanks aside. -/
def sectionType? (line : List UInt8) : Option (List UInt8) :=
  let scan := line.zipIdx.reverse.foldl
    (fun (st : Nat × Nat × Bool) (e : UInt8 × Nat) =>
      let (trailer, pos, done) := st
      if done then st
      else if e.1 == 45 then (trailer + 1, e.2, false)
      else if isLineBlank e.1 then st
      else (trailer, pos, true)) (0, line.length, false)
  if scan.1 == 5 then some ((line.take scan.2.1).drop 11) else none

/-- The six-bit value of a base64 byte, the pad counted apart. -/
def sectionSymbol? (b : UInt8) : Option Nat := Base64.byteValue? b

/-- Decodes the base64 of a section: blanks are skipped, a byte outside the alphabet fails,
and the pads may only close the last group of four. -/
def sectionBase64 (input : List UInt8) : Except String (List UInt8) := do
  let symbols := input.filter (fun b => !(b == 32 || b == 9 || b == 10 || b == 13))
  match symbols.find? (fun b => b != 61 && (sectionSymbol? b).isNone) with
  | some b => throw ("InvalidCharacter(" ++ toString b ++ ")")
  | none => pure ()
  let body := symbols.takeWhile (· != 61)
  let pads := symbols.length - body.length
  if (symbols.drop body.length).any (· != 61) then throw "PrematurePadding"
  if pads > 2 || symbols.length % 4 != 0 || (pads > 0 && body.length % 4 < 2) then
    throw "InvalidTrailingPadding"
  match Base64.decodeBytes symbols with
  | .ok bytes => pure bytes
  | .error _ => throw "InvalidTrailingPadding"

/-- Reads the sections of an identity within `fuel` lines: each known section with its decoded
contents, in order, or the reason the text is refused. -/
def readSections : Nat → List (List UInt8) → Option (List UInt8 × List UInt8) → List UInt8 →
    Except String (List (SectionKind × List UInt8))
  | 0, _, _, _ => .ok []
  | _ + 1, [], none, _ => .ok []
  | _ + 1, [], some (_, endMarker), _ =>
    .error ("section end " ++ Text.escaped (lossyText endMarker) ++ " missing")
  | fuel + 1, line :: rest, open_, buffer =>
    if (asciiBytes "-----BEGIN ").isPrefixOf line then
      match sectionType? line with
      | none => .error ("illegal section start: " ++ Text.escaped (lossyText line))
      | some ty => readSections fuel rest (some (ty, asciiBytes "-----END " ++ ty ++ asciiBytes "-----")) buffer
    else match open_ with
      | some (ty, endMarker) =>
        if endMarker.isPrefixOf line then
          match SectionKind.ofType? ty with
          | none => readSections fuel rest none []
          | some kind => do
            let contents ← sectionBase64 buffer
            pure ((kind, contents) :: (← readSections fuel rest none []))
        else
          let kept := (line.reverse.dropWhile isLineBlank).reverse
          readSections fuel rest open_ (buffer ++ kept)
      | none => readSections fuel rest none buffer

/-- Reads the sections of an identity text. -/
def identitySections (bytes : List UInt8) : Except String (List (SectionKind × List UInt8)) :=
  let lines := byteLines bytes
  readSections (lines.length + 1) lines none []

end ConfigRollout.Connect
