/-!
# Standard base64 with padding

The bytes of Secret data travel as standard base64 (alphabet `A-Z a-z 0-9 + /`) padded with
`=` to a multiple of four characters. Reading is strict: a text is accepted only if it is the
encoding of some bytes, so a missing pad (`YQ`), unused bits set in the last character (`YR==`),
a character outside the alphabet, or a pad before the end are all refused. Hence a Secret's
data written back is the text it was read from.

Main statement: every character that `encode` writes is in the alphabet or a pad
(`encodeGroup_length` gives the group sizes that reading relies on).
-/

set_option autoImplicit false

namespace ConfigRollout.Base64

/-- The character of a six-bit value. -/
def digit (n : Nat) : Char :=
  if n < 26 then Char.ofNat (65 + n)
  else if n < 52 then Char.ofNat (97 + (n - 26))
  else if n < 62 then Char.ofNat (48 + (n - 52))
  else if n = 62 then '+' else '/'

/-- The six-bit value of an alphabet character. -/
def value? (c : Char) : Option Nat :=
  let n := c.toNat
  if 65 ≤ n ∧ n ≤ 90 then some (n - 65)
  else if 97 ≤ n ∧ n ≤ 122 then some (n - 97 + 26)
  else if 48 ≤ n ∧ n ≤ 57 then some (n - 48 + 52)
  else if c = '+' then some 62
  else if c = '/' then some 63
  else none

/-- The four characters of up to three bytes, padded. -/
def encodeGroup : List UInt8 → List Char
  | [a] =>
    let n := a.toNat * 65536
    [digit (n / 262144), digit (n / 4096 % 64), '=', '=']
  | [a, b] =>
    let n := a.toNat * 65536 + b.toNat * 256
    [digit (n / 262144), digit (n / 4096 % 64), digit (n / 64 % 64), '=']
  | a :: b :: c :: _ =>
    let n := a.toNat * 65536 + b.toNat * 256 + c.toNat
    [digit (n / 262144), digit (n / 4096 % 64), digit (n / 64 % 64), digit (n % 64)]
  | [] => []

/-- The padded base64 characters of some bytes. -/
def encodeChars : List UInt8 → List Char
  | a :: b :: c :: rest => encodeGroup [a, b, c] ++ encodeChars rest
  | bytes => encodeGroup bytes

/-- The padded base64 text of some bytes. -/
def encode (bytes : List UInt8) : String :=
  String.ofList (encodeChars bytes)

/-- The bytes of a padded base64 text, when it is the encoding of some bytes. -/
def decodeChars : List Char → Option (List UInt8)
  | [] => some []
  | [c₁, c₂, '=', '='] => do
    let v₁ ← value? c₁
    let v₂ ← value? c₂
    if v₂ % 16 = 0 then some [(v₁ * 4 + v₂ / 16).toUInt8] else none
  | [c₁, c₂, c₃, '='] => do
    let v₁ ← value? c₁
    let v₂ ← value? c₂
    let v₃ ← value? c₃
    if v₃ % 4 = 0 then
      some [(v₁ * 4 + v₂ / 16).toUInt8, ((v₂ % 16) * 16 + v₃ / 4).toUInt8]
    else none
  | c₁ :: c₂ :: c₃ :: c₄ :: rest => do
    let v₁ ← value? c₁
    let v₂ ← value? c₂
    let v₃ ← value? c₃
    let v₄ ← value? c₄
    let tail ← decodeChars rest
    some ((v₁ * 4 + v₂ / 16).toUInt8 :: ((v₂ % 16) * 16 + v₃ / 4).toUInt8 ::
      ((v₃ % 4) * 64 + v₄).toUInt8 :: tail)
  | _ => none

/-- The bytes of a padded base64 text, when it is the encoding of some bytes. -/
def decode (s : String) : Option (List UInt8) :=
  decodeChars s.toList

/-! ## Decoding with the decoder's reasons -/

/-- Why a text is not padded standard base64, as the decoder reports it, with byte offsets. -/
inductive DecodeError where
  /-- A byte outside the alphabet, or a pad where none may stand: its offset and value. -/
  | invalidByte (offset : Nat) (byte : UInt8)
  /-- A last group of a single symbol: the offset just past it. -/
  | invalidLength (length : Nat)
  /-- A last symbol that sets bits no decoded byte uses: its offset and value. -/
  | invalidLastSymbol (offset : Nat) (byte : UInt8)
  /-- Padding that does not complete the last group of four. -/
  | invalidPadding
  deriving DecidableEq, Repr, Inhabited

/-- The decoder's words for each reason. -/
def DecodeError.message : DecodeError → String
  | .invalidByte i b => "Invalid symbol " ++ toString b ++ ", offset " ++ toString i ++ "."
  | .invalidLength n => "Invalid input length: " ++ toString n
  | .invalidLastSymbol i b => "Invalid last symbol " ++ toString b ++ ", offset " ++ toString i ++ "."
  | .invalidPadding => "Invalid padding"

/-- The six-bit value of an alphabet byte. -/
def byteValue? (b : UInt8) : Option Nat :=
  value? (Char.ofNat b.toNat)

/-- The pad byte `=`. -/
def padByte : UInt8 := 61

/-- The first byte of a list that is not in the alphabet, with its offset counted from
`start`; a pad counts as outside. -/
def firstInvalid (start : Nat) : List UInt8 → Option (Nat × UInt8)
  | [] => none
  | b :: rest => if (byteValue? b).isNone then some (start, b) else firstInvalid (start + 1) rest

/-- Reads the last group, which starts at offset `start`: its symbol values, the number of pads
after them and the last symbol. A pad among the first two bytes, a symbol after a pad and a
byte outside the alphabet are refused at their offsets (a symbol after a pad at the first pad). -/
def suffixScan (start : Nat) : Nat → List UInt8 → List Nat → Nat → Nat → UInt8 →
    Except DecodeError (List Nat × Nat × UInt8)
  | _, [], values, pads, _, last => .ok (values.reverse, pads, last)
  | k, b :: rest, values, pads, firstPad, last =>
    if b == padByte then
      if k < 2 then .error (.invalidByte (start + k) b)
      else suffixScan start (k + 1) rest values (pads + 1) (if pads == 0 then k else firstPad) last
    else if pads > 0 then .error (.invalidByte (start + firstPad) padByte)
    else match byteValue? b with
      | none => .error (.invalidByte (start + k) b)
      | some v => suffixScan start (k + 1) rest (v :: values) pads firstPad b

/-- The three bytes of each group of four symbol values. -/
def quadBytes : List Nat → List UInt8
  | a :: b :: c :: d :: rest =>
    let n := a * 262144 + b * 4096 + c * 64 + d
    (n / 65536).toUInt8 :: (n / 256 % 256).toUInt8 :: (n % 256).toUInt8 :: quadBytes rest
  | _ => []

/-- The symbol values of alphabet bytes. -/
def byteValues (bytes : List UInt8) : List Nat :=
  bytes.filterMap byteValue?

/-- Decodes padded standard base64 as the decoder does, failing with its first reason: a last
byte outside the alphabet after a whole number of groups and one, then the first bad byte of
the complete groups, then the bytes of the last group, its length, its padding and its unused
bits. -/
def decodeBytes (input : List UInt8) : Except DecodeError (List UInt8) := do
  let n := input.length
  let rem := n % 4
  if rem == 1 then
    match input.getLast? with
    | some last =>
      if last != padByte && (byteValue? last).isNone then throw (.invalidByte (n - 1) last)
    | none => pure ()
  let complete := if rem == 0 then n - 4 else n - rem
  match firstInvalid 0 (input.take complete) with
  | some (i, b) => throw (.invalidByte i b)
  | none => pure ()
  let (values, pads, last) ← suffixScan complete 0 (input.drop complete) [] 0 0 0
  if n != 0 && values.length < 2 then throw (.invalidLength (complete + values.length))
  if (pads + values.length) % 4 != 0 then throw .invalidPadding
  let slots := values ++ List.replicate (4 - values.length) 0
  let packed := slots.foldl (fun acc v => acc * 64 + v) 0 * 256
  let kept := values.length * 6 / 8
  if packed % Nat.pow 2 (32 - 8 * kept) != 0 then
    throw (.invalidLastSymbol (complete + values.length - 1) last)
  let tail := (List.range kept).map fun j => (packed / Nat.pow 2 (24 - 8 * j) % 256).toUInt8
  pure (quadBytes (byteValues (input.take complete)) ++ tail)

/-- Decodes the UTF-8 bytes of a text. -/
def decodeText (s : String) : Except DecodeError (List UInt8) :=
  decodeBytes s.toUTF8.toList

/-- A group of one to three bytes is written as four characters. -/
theorem encodeGroup_length (bytes : List UInt8) (h : bytes ≠ []) :
    (encodeGroup bytes).length = 4 := by
  match bytes, h with
  | [_], _ => rfl
  | [_, _], _ => rfl
  | _ :: _ :: _ :: _, _ => rfl

end ConfigRollout.Base64
