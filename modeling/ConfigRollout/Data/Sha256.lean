/-!
# SHA-256

The SHA-256 digest of a byte sequence (FIPS 180-4), and its lower-case hexadecimal text. The
message is padded with a one bit, zeros and its 64-bit length to whole 64-byte blocks; each
block is expanded to 64 schedule words and mixed into eight 32-bit state words by 64 rounds.

The definitions work on lists of bytes and arrays of words, with every index read through a
default, so each function is total and runs in time linear in the message.

Main statements: the padded message is a whole number of blocks (`pad_length_mod`), and the
hexadecimal text has two digits per byte (`hex_length`).
-/

set_option autoImplicit false

namespace ConfigRollout.Sha256

/-- The round constants: the first 32 bits of the fractional parts of the cube roots of the
first 64 primes. -/
def roundConstants : Array UInt32 := #[
  0x428a2f98, 0x71374491, 0xb5c0fbcf, 0xe9b5dba5, 0x3956c25b, 0x59f111f1, 0x923f82a4, 0xab1c5ed5,
  0xd807aa98, 0x12835b01, 0x243185be, 0x550c7dc3, 0x72be5d74, 0x80deb1fe, 0x9bdc06a7, 0xc19bf174,
  0xe49b69c1, 0xefbe4786, 0x0fc19dc6, 0x240ca1cc, 0x2de92c6f, 0x4a7484aa, 0x5cb0a9dc, 0x76f988da,
  0x983e5152, 0xa831c66d, 0xb00327c8, 0xbf597fc7, 0xc6e00bf3, 0xd5a79147, 0x06ca6351, 0x14292967,
  0x27b70a85, 0x2e1b2138, 0x4d2c6dfc, 0x53380d13, 0x650a7354, 0x766a0abb, 0x81c2c92e, 0x92722c85,
  0xa2bfe8a1, 0xa81a664b, 0xc24b8b70, 0xc76c51a3, 0xd192e819, 0xd6990624, 0xf40e3585, 0x106aa070,
  0x19a4c116, 0x1e376c08, 0x2748774c, 0x34b0bcb5, 0x391c0cb3, 0x4ed8aa4a, 0x5b9cca4f, 0x682e6ff3,
  0x748f82ee, 0x78a5636f, 0x84c87814, 0x8cc70208, 0x90befffa, 0xa4506ceb, 0xbef9a3f7, 0xc67178f2]

/-- The initial state: the first 32 bits of the fractional parts of the square roots of the
first eight primes. -/
def initialState : Array UInt32 :=
  #[0x6a09e667, 0xbb67ae85, 0x3c6ef372, 0xa54ff53a, 0x510e527f, 0x9b05688c, 0x1f83d9ab, 0x5be0cd19]

/-- The word at an index, zero past the end. -/
def wordAt (w : Array UInt32) (i : Nat) : UInt32 :=
  w[i]?.getD 0

/-- Rotation of a word to the right. -/
def rotr (x : UInt32) (n : UInt32) : UInt32 :=
  (x >>> n) ||| (x <<< (32 - n))

/-- The message padded to whole 64-byte blocks: a one bit, zeros, and the bit length as a
64-bit big-endian number. -/
def pad (msg : List UInt8) : List UInt8 :=
  let len := msg.length
  let zeros := (119 - len % 64) % 64
  let bits := len * 8
  msg ++ [0x80] ++ List.replicate zeros 0 ++
    (List.range 8).reverse.map (fun i => (bits / Nat.pow 2 (8 * i) % 256).toUInt8)

/-- The big-endian words of a list of bytes, four bytes to a word. -/
def words : List UInt8 → List UInt32
  | a :: b :: c :: d :: rest =>
    ((a.toUInt32 <<< 24) ||| (b.toUInt32 <<< 16) ||| (c.toUInt32 <<< 8) ||| d.toUInt32) :: words rest
  | _ => []

/-- The 64 schedule words of a block of 16 words. -/
def schedule (block : Array UInt32) : Array UInt32 :=
  (List.range 48).foldl (fun w i =>
    let t := i + 16
    let x := wordAt w (t - 15)
    let y := wordAt w (t - 2)
    let s0 := rotr x 7 ^^^ rotr x 18 ^^^ (x >>> 3)
    let s1 := rotr y 17 ^^^ rotr y 19 ^^^ (y >>> 10)
    w.push (s1 + wordAt w (t - 7) + s0 + wordAt w (t - 16))) block

/-- One round of mixing a schedule word into the eight working words. -/
def round (v : Array UInt32) (k w : UInt32) : Array UInt32 :=
  let a := wordAt v 0
  let b := wordAt v 1
  let c := wordAt v 2
  let d := wordAt v 3
  let e := wordAt v 4
  let f := wordAt v 5
  let g := wordAt v 6
  let h := wordAt v 7
  let s1 := rotr e 6 ^^^ rotr e 11 ^^^ rotr e 25
  let ch := (e &&& f) ^^^ ((~~~ e) &&& g)
  let t1 := h + s1 + ch + k + w
  let s0 := rotr a 2 ^^^ rotr a 13 ^^^ rotr a 22
  let maj := (a &&& b) ^^^ (a &&& c) ^^^ (b &&& c)
  let t2 := s0 + maj
  #[t1 + t2, a, b, c, d + t1, e, f, g]

/-- The state after one block of 16 words. -/
def compress (state : Array UInt32) (block : Array UInt32) : Array UInt32 :=
  let w := schedule block
  let v := (List.range 64).foldl (fun v i => round v (wordAt roundConstants i) (wordAt w i)) state
  (List.range 8).toArray.map (fun i => wordAt state i + wordAt v i)

/-- The blocks of 16 words of a list of words. -/
def blocks (ws : List UInt32) : List (Array UInt32) :=
  (List.range (ws.length / 16)).map (fun i => ((ws.drop (16 * i)).take 16).toArray)

/-- The digest of a message, as 32 bytes. -/
def digest (msg : List UInt8) : List UInt8 :=
  let state := (blocks (words (pad msg))).foldl compress initialState
  state.toList.flatMap (fun (x : UInt32) => [(x >>> 24).toUInt8, (x >>> 16).toUInt8, (x >>> 8).toUInt8, x.toUInt8])

/-- The two lower-case hexadecimal digits of a byte. -/
def hexByte (b : UInt8) : List Char :=
  let digit (n : Nat) : Char := if n < 10 then Char.ofNat (48 + n) else Char.ofNat (87 + n)
  [digit (b.toNat / 16), digit (b.toNat % 16)]

/-- The lower-case hexadecimal text of some bytes. -/
def hex (bytes : List UInt8) : String :=
  String.ofList (bytes.flatMap hexByte)

/-- A padded message fills whole 64-byte blocks. -/
theorem pad_length_mod (msg : List UInt8) : (pad msg).length % 64 = 0 := by
  simp only [pad, List.length_append, List.length_singleton, List.length_replicate,
    List.length_map, List.length_reverse, List.length_range]
  omega

/-- The hexadecimal text of bytes has two digits per byte. -/
theorem hex_length (bytes : List UInt8) : (hex bytes).length = 2 * bytes.length := by
  simp only [hex, String.length_ofList]
  induction bytes with
  | nil => rfl
  | cons b rest ih => simp [hexByte, ih]; omega

end ConfigRollout.Sha256
