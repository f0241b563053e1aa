/-!
# The shape of a certificate

A root certificate is accepted only when its DER bytes have the shape of an X.509
certificate, as far as a trust anchor needs it (`certificateFault?`):

* a SEQUENCE holding the to-be-signed part (a SEQUENCE), the signature algorithm (a
  SEQUENCE) and the signature (a BIT STRING with no unused bits), and nothing after it;
* a version 3 to-be-signed part: `[0]` holding the INTEGER 2, a serial number (an INTEGER),
  the signature algorithm (which must be the outer one, byte for byte), issuer, validity,
  subject and public key (SEQUENCEs), and optionally `[3]` holding a SEQUENCE of extensions,
  each a SEQUENCE of an OBJECT IDENTIFIER, an optional BOOLEAN and an OCTET STRING;
* or else a version 1 to-be-signed part: a serial number and five SEQUENCEs.

Elements are read as DER: a tag below 31, a length in the shortest form of at most four
bytes, below 65535, and that many bytes. Anything else is a bad encoding.
-/

set_option autoImplicit false

namespace ConfigRollout.Connect

/-- Why certificate bytes are refused. -/
inductive CertificateFault where
  /-- The bytes are no certificate. -/
  | badEncoding
  /-- The inner and outer signature algorithms differ. -/
  | algorithmMismatch
  deriving DecidableEq, Repr, Inhabited

/-- The fault as the certificate store names it. -/
def CertificateFault.text : CertificateFault → String
  | .badEncoding => "BadEncoding"
  | .algorithmMismatch => "Other(OtherError(SignatureAlgorithmMismatch))"

/-- The value of some big-endian bytes. -/
def bigEndian (bytes : List UInt8) : Nat :=
  bytes.foldl (fun acc b => acc * 256 + b.toNat) 0

/-- Reads one element: its tag, its contents and the bytes after it. -/
def derElement? (input : List UInt8) : Option (UInt8 × List UInt8 × List UInt8) := do
  let (tag, rest) ← match input with | t :: r => some (t, r) | [] => none
  if tag &&& 0x1F == 0x1F then none
  let (first, rest) ← match rest with | b :: r => some (b, r) | [] => none
  let (length, rest) ←
    if first < 0x80 then some (first.toNat, rest)
    else
      let n := (first - 0x80).toNat
      if n == 0 || n > 4 || rest.length < n then none
      else
        let v := bigEndian (rest.take n)
        if v < Nat.pow 2 (8 * (n - 1)) || (n == 1 && v < 128) then none else some (v, rest.drop n)
  if length ≥ 0xFFFF || rest.length < length then none
  pure (tag, rest.take length, rest.drop length)

/-- Reads an element with a given tag: its contents and the bytes after it. -/
def expectTag? (tag : UInt8) (input : List UInt8) : Option (List UInt8 × List UInt8) := do
  let (t, contents, rest) ← derElement? input
  if t == tag then some (contents, rest) else none

/-- Reads the elements with the given tags in order; the bytes after them. -/
def skipTags (tags : List UInt8) (input : List UInt8) : Option (List UInt8) :=
  tags.foldlM (fun rest tag => (expectTag? tag rest).map Prod.snd) input

/-- Whether the contents of an extension are an OBJECT IDENTIFIER, an optional BOOLEAN and an
OCTET STRING. -/
def isExtension (contents : List UInt8) : Bool :=
  match expectTag? 0x06 contents with
  | none => false
  | some (_, rest) =>
    let rest := match expectTag? 0x01 rest with
      | some (_, r) => r
      | none => rest
    match expectTag? 0x04 rest with
    | some (_, []) => true
    | _ => false

/-- Whether bytes are a run of extensions. -/
def isExtensionRun (input : List UInt8) : Bool :=
  go input.length input
where
  go : Nat → List UInt8 → Bool
    | _, [] => true
    | 0, _ => false
    | fuel + 1, bytes =>
      match expectTag? 0x30 bytes with
      | some (contents, rest) => isExtension contents && go fuel rest
      | none => false

/-- Whether the contents of a `[0]` element are the version number 2. -/
def isVersionThree (contents : List UInt8) : Bool :=
  match expectTag? 0x02 contents with
  | some ([2], []) => true
  | _ => false

/-- Checks a version 3 to-be-signed part against the outer signature algorithm. -/
def tbsFault? (tbs algorithm : List UInt8) : Option CertificateFault :=
  let afterVersion := match expectTag? 0xA0 tbs with
    | some (version, rest) => if isVersionThree version then some rest else none
    | none => none
  match afterVersion with
  | none =>
    -- a version 1 part: serial number, signature, issuer, validity, subject, key
    match skipTags [0x02, 0x30, 0x30, 0x30, 0x30, 0x30] tbs with
    | some [] => none
    | _ => some .badEncoding
  | some rest =>
    match expectTag? 0x02 rest with
    | none => some .badEncoding
    | some (_, rest) =>
      match expectTag? 0x30 rest with
      | none => some .badEncoding
      | some (inner, rest) =>
        if inner != algorithm then some .algorithmMismatch
        else match skipTags [0x30, 0x30, 0x30, 0x30] rest with
          | none => some .badEncoding
          | some [] => none
          | some rest =>
            match expectTag? 0xA3 rest with
            | some (wrapped, []) =>
              match expectTag? 0x30 wrapped with
              | some (extensions, []) => if isExtensionRun extensions then none else some .badEncoding
              | _ => some .badEncoding
            | _ => some .badEncoding

/-- Why DER bytes are not a certificate a trust anchor can be made of, if they are not. -/
def certificateFault? (der : List UInt8) : Option CertificateFault :=
  match expectTag? 0x30 der with
  | some (signed, []) =>
    match expectTag? 0x30 signed with
    | none => some .badEncoding
    | some (tbs, rest) =>
      match expectTag? 0x30 rest with
      | none => some .badEncoding
      | some (algorithm, rest) =>
        match expectTag? 0x03 rest with
        | some (0 :: _, []) => tbsFault? tbs algorithm
        | _ => some .badEncoding
  | _ => some .badEncoding

end ConfigRollout.Connect
