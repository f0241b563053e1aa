import ConfigRollout.Data.Base64

/-!
# Reading back what base64 writes

The strict reader accepts every text the writer produces and gives back its bytes:
`decodeChars (encodeChars bytes) = some bytes` (`decodeChars_encodeChars`). So two byte
strings with one written form are equal (`encode_injective`), which is what lets the
canonical hash source tell Secret data apart by its text.

The argument goes group by group. A full group of three bytes is four alphabet characters,
never a pad, so the reader takes it as a full group; the three bytes come back from the four
six-bit values by arithmetic on their sums (`group_values`). The last, short group is
padded, and its unused bits are zero, so the reader's checks on them pass.
-/

set_option autoImplicit false

namespace ConfigRollout.Base64

/-- Every six-bit value reads back from its character. -/
theorem value?_digit : ∀ n, n < 64 → value? (digit n) = some n := by
  decide

/-- No six-bit value is written as a pad. -/
theorem digit_ne_pad : ∀ n, n < 64 → digit n ≠ '=' := by
  decide

/-- The bytes of a full group come back from its four six-bit values. -/
theorem group_values (a b c : Nat) (hb : b < 256) (hc : c < 256) :
    let n := a * 65536 + b * 256 + c
    n / 262144 * 4 + n / 4096 % 64 / 16 = a ∧
      n / 4096 % 64 % 16 * 16 + n / 64 % 64 / 4 = b ∧
      n / 64 % 64 % 4 * 64 + n % 64 = c := by
  intro n
  omega

/-- A byte is the byte of its number. -/
theorem toUInt8_toNat (a : UInt8) : a.toNat.toUInt8 = a :=
  UInt8.ofNat_toNat

/-! ## The reader on one group

The reader is first stated on characters of known six-bit values; the writer's groups are then
instances. Keeping the values abstract here keeps the terms small. -/

/-- Four alphabet characters, none a pad, read as the three bytes of their values. -/
theorem decodeChars_quad {c₁ c₂ c₃ c₄ : Char} {v₁ v₂ v₃ v₄ : Nat} (h₁ : value? c₁ = some v₁)
    (h₂ : value? c₂ = some v₂) (h₃ : value? c₃ = some v₃) (h₄ : value? c₄ = some v₄) (hp₃ : c₃ ≠ '=')
    (hp₄ : c₄ ≠ '=') (rest : List Char) :
    decodeChars (c₁ :: c₂ :: c₃ :: c₄ :: rest) =
      (decodeChars rest).map (fun t => (v₁ * 4 + v₂ / 16).toUInt8 :: (v₂ % 16 * 16 + v₃ / 4).toUInt8 ::
        (v₃ % 4 * 64 + v₄).toUInt8 :: t) := by
  rw [decodeChars.eq_4 _ _ _ _ _ (fun h _ _ => hp₃ h) (fun h _ => hp₄ h)]
  simp only [h₁, h₂, h₃, h₄, Option.bind_eq_bind, Option.bind_some]
  cases decodeChars rest <;> rfl

/-- Three alphabet characters and a pad read as two bytes, when the last value's unused bits
are zero. -/
theorem decodeChars_triple {c₁ c₂ c₃ : Char} {v₁ v₂ v₃ : Nat} (h₁ : value? c₁ = some v₁)
    (h₂ : value? c₂ = some v₂) (h₃ : value? c₃ = some v₃) (hp₃ : c₃ ≠ '=') (hz : v₃ % 4 = 0) :
    decodeChars [c₁, c₂, c₃, '='] = some [(v₁ * 4 + v₂ / 16).toUInt8, (v₂ % 16 * 16 + v₃ / 4).toUInt8] := by
  rw [decodeChars.eq_3 _ _ _ hp₃]
  simp only [h₁, h₂, h₃, Option.bind_eq_bind, Option.bind_some, hz, if_true]

/-- Two alphabet characters and two pads read as one byte, when the last value's unused bits
are zero. -/
theorem decodeChars_pair {c₁ c₂ : Char} {v₁ v₂ : Nat} (h₁ : value? c₁ = some v₁) (h₂ : value? c₂ = some v₂)
    (hz : v₂ % 16 = 0) :
    decodeChars [c₁, c₂, '=', '='] = some [(v₁ * 4 + v₂ / 16).toUInt8] := by
  simp only [decodeChars, h₁, h₂, Option.bind_eq_bind, Option.bind_some, hz, if_true]

/-- A full group reads back as its three bytes, whatever follows it. -/
theorem decodeChars_encodeGroup_append (a b c : UInt8) (rest : List Char) :
    decodeChars (encodeGroup [a, b, c] ++ rest) = (decodeChars rest).map (fun t => a :: b :: c :: t) := by
  have ha := a.toNat_lt
  have hb := b.toNat_lt
  have hc := c.toNat_lt
  obtain ⟨h₁, h₂, h₃⟩ := group_values a.toNat b.toNat c.toNat hb hc
  simp only [encodeGroup, List.cons_append, List.nil_append]
  generalize hn : a.toNat * 65536 + b.toNat * 256 + c.toNat = n at h₁ h₂ h₃ ⊢
  -- the four characters are alphabet characters, none of them a pad
  have hd₁ : n / 262144 < 64 := by omega
  have hd₂ : n / 4096 % 64 < 64 := Nat.mod_lt _ (by decide)
  have hd₃ : n / 64 % 64 < 64 := Nat.mod_lt _ (by decide)
  have hd₄ : n % 64 < 64 := Nat.mod_lt _ (by decide)
  rw [decodeChars_quad (value?_digit _ hd₁) (value?_digit _ hd₂) (value?_digit _ hd₃) (value?_digit _ hd₄)
    (digit_ne_pad _ hd₃) (digit_ne_pad _ hd₄), h₁, h₂, h₃]
  simp only [toUInt8_toNat]

/-- A last group of one byte reads back as that byte. -/
theorem decodeChars_encodeGroup_one (a : UInt8) : decodeChars (encodeGroup [a]) = some [a] := by
  have ha := a.toNat_lt
  have hd₁ : a.toNat * 65536 / 262144 < 64 := by omega
  have hd₂ : a.toNat * 65536 / 4096 % 64 < 64 := Nat.mod_lt _ (by decide)
  -- the second character carries two bits of the byte and four zero bits
  have hzero : a.toNat * 65536 / 4096 % 64 % 16 = 0 := by omega
  have hbyte : a.toNat * 65536 / 262144 * 4 + a.toNat * 65536 / 4096 % 64 / 16 = a.toNat := by omega
  simp only [encodeGroup]
  rw [decodeChars_pair (value?_digit _ hd₁) (value?_digit _ hd₂) hzero, hbyte, toUInt8_toNat]

/-- A last group of two bytes reads back as those bytes. -/
theorem decodeChars_encodeGroup_two (a b : UInt8) : decodeChars (encodeGroup [a, b]) = some [a, b] := by
  have ha := a.toNat_lt
  have hb := b.toNat_lt
  obtain ⟨h₁, h₂, -⟩ := group_values a.toNat b.toNat 0 hb (by decide)
  simp only [Nat.add_zero] at h₁ h₂
  simp only [encodeGroup]
  generalize hn : a.toNat * 65536 + b.toNat * 256 = n at h₁ h₂ ⊢
  have hd₁ : n / 262144 < 64 := by omega
  have hd₂ : n / 4096 % 64 < 64 := Nat.mod_lt _ (by decide)
  have hd₃ : n / 64 % 64 < 64 := Nat.mod_lt _ (by decide)
  -- the third character carries four bits of the second byte and two zero bits
  have hzero : n / 64 % 64 % 4 = 0 := by omega
  rw [decodeChars_triple (value?_digit _ hd₁) (value?_digit _ hd₂) (value?_digit _ hd₃) (digit_ne_pad _ hd₃) hzero,
    h₁, h₂, toUInt8_toNat, toUInt8_toNat]

/-- The reader gives back the bytes of every text the writer produces. -/
theorem decodeChars_encodeChars (bytes : List UInt8) : decodeChars (encodeChars bytes) = some bytes := by
  induction bytes using encodeChars.induct with
  | case1 a b c rest ih =>
      rw [encodeChars, decodeChars_encodeGroup_append, ih]
      rfl
  | case2 bytes hshort =>
      -- fewer than three bytes: one last group, padded
      match bytes, hshort with
      | [], _ => rfl
      | [a], _ => exact decodeChars_encodeGroup_one a
      | [a, b], _ => exact decodeChars_encodeGroup_two a b
      | a :: b :: c :: rest, h => exact absurd rfl (h a b c rest)

/-- The strict base64 reader reads back every byte string that the writer writes. -/
theorem decode_encode (bytes : List UInt8) : decode (encode bytes) = some bytes := by
  rw [decode, encode, String.toList_ofList, decodeChars_encodeChars]

/-- Different bytes have different base64 texts. -/
theorem encode_injective : Function.Injective encode := by
  intro x y h
  have hd := congrArg decode h
  rw [decode_encode, decode_encode] at hd
  exact Option.some.inj hd

example : encode [104, 105] = "aGk=" := by decide

end ConfigRollout.Base64
