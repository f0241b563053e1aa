import ConfigRollout.Fingerprint
import ConfigRollout.Proofs.JsonText
import ConfigRollout.Proofs.Base64Decode

/-!
# The text a fingerprint digests

A fingerprint is the hexadecimal form of the SHA-256 digest of one byte string: the UTF-8
text of the hash source's JSON value (`HashSource.text`). Every step around the digest is
injective, so two fingerprints agree only when the digests do (`Sha256.hex_injective`), and two
texts agree only when the sources do (`HashSource.text_injective`): the JSON of a source is
built from objects and strings, whose text is unambiguous, and its Secret data are written in
base64, which reads back.
-/

set_option autoImplicit false

namespace ConfigRollout

/-! ## Hexadecimal digests -/

namespace Sha256

/-- A byte is written as its two hexadecimal digits, the high one first. -/
theorem hexByte_eq (b : UInt8) : hexByte b = [Json.hexDigit (b.toNat / 16), Json.hexDigit (b.toNat % 16)] :=
  rfl

/-- The hexadecimal digits of a byte, followed by anything, give back the byte and the rest. -/
theorem hexByte_append_inj {b b' : UInt8} {r r' : List Char} (h : hexByte b ++ r = hexByte b' ++ r') :
    b = b' ∧ r = r' := by
  rw [hexByte_eq, hexByte_eq] at h
  simp only [List.cons_append, List.nil_append, List.cons.injEq] at h
  obtain ⟨hhi, hlo, hr⟩ := h
  -- each digit reads back as its value, and the two values give the byte
  have hb := b.toNat_lt
  have hb' := b'.toNat_lt
  have hhi' := congrArg Json.hexValue hhi
  have hlo' := congrArg Json.hexValue hlo
  rw [Json.hexValue_hexDigit _ (by omega), Json.hexValue_hexDigit _ (by omega)] at hhi'
  rw [Json.hexValue_hexDigit _ (Nat.mod_lt _ (by decide)), Json.hexValue_hexDigit _ (Nat.mod_lt _ (by decide))] at hlo'
  exact ⟨UInt8.toNat_inj.mp (by omega), hr⟩

/-- Different byte strings have different hexadecimal texts. -/
theorem flatMap_hexByte_inj : ∀ {x y : List UInt8}, x.flatMap hexByte = y.flatMap hexByte → x = y
  | [], [], _ => rfl
  | [], _ :: _, h => by simp [hexByte] at h
  | _ :: _, [], h => by simp [hexByte] at h
  | b :: x, b' :: y, h => by
      rw [List.flatMap_cons, List.flatMap_cons] at h
      obtain ⟨rfl, hr⟩ := hexByte_append_inj h
      rw [flatMap_hexByte_inj hr]

/-- Different digests have different hexadecimal texts. -/
theorem hex_injective : Function.Injective hex := by
  intro x y h
  apply flatMap_hexByte_inj
  simpa [hex] using congrArg String.toList h

end Sha256

/-! ## UTF-8 bytes -/

/-- The loop that lists a byte array from an index appends the bytes from there. -/
theorem byteArray_toList_loop (bs : ByteArray) (i : Nat) (r : List UInt8) :
    ByteArray.toList.loop bs i r = r.reverse ++ bs.data.toList.drop i := by
  fun_induction ByteArray.toList.loop bs i r with
  | case1 i r h ih =>
      rw [ih, List.reverse_cons, List.append_assoc, List.singleton_append]
      congr 1
      have hi : i < bs.data.toList.length := by simpa using h
      rw [List.drop_eq_getElem_cons hi]
      simp [ByteArray.get!, h]
  | case2 i r h =>
      rw [List.drop_of_length_le (by simpa using Nat.le_of_not_lt h), List.append_nil]

/-- The bytes of a byte array listed are the bytes of its array. -/
theorem byteArray_toList_eq (bs : ByteArray) : bs.toList = bs.data.toList := by
  rw [ByteArray.toList, byteArray_toList_loop]
  rfl

/-- Different texts have different UTF-8 bytes. -/
theorem utf8_toList_injective {s t : String} (h : s.toUTF8.toList = t.toUTF8.toList) : s = t := by
  rw [byteArray_toList_eq, byteArray_toList_eq, Array.toList_inj] at h
  exact String.toByteArray_inj.mp (ByteArray.ext h)

/-! ## The hash source -/

namespace HashSource

/-- The bytes that the fingerprint digests: the UTF-8 text of the source's JSON value. -/
def text (src : HashSource) : List UInt8 :=
  (Json.render src.toJson).toUTF8.toList

/-- The JSON value of a source is an object of objects of objects of strings. -/
theorem toJson_shape (src : HashSource) : Json.ObjOf (Json.ObjOf (Json.ObjOf Json.IsStr)) src.toJson := by
  refine ⟨_, rfl, ?_⟩
  intro f hf
  simp only [List.mem_cons, List.not_mem_nil, or_false] at hf
  -- both members, ConfigMaps and Secrets, map each name to an object of strings
  rcases hf with rfl | rfl
  all_goals
    refine ⟨_, rfl, fun e he => ?_⟩
    obtain ⟨_, _, rfl⟩ := List.mem_map.mp he
    refine ⟨_, rfl, fun kv hkv => ?_⟩
    obtain ⟨_, _, rfl⟩ := List.mem_map.mp hkv
    exact ⟨_, rfl⟩

/-- Named maps written as JSON objects of strings, each value through an injective writer,
give back the names and maps. -/
theorem map_namedObj_inj {α : Type} (f : α → String) (hf : Function.Injective f) {l l' : List (String × Dict α)}
    (h : l.map (fun e => (e.1, Json.obj (e.2.toList.map (fun kv => (kv.1, Json.str (f kv.2)))))) =
      l'.map (fun e => (e.1, Json.obj (e.2.toList.map (fun kv => (kv.1, Json.str (f kv.2))))))) :
    l = l' := by
  refine (List.map_inj_right ?_).mp h
  rintro ⟨k, d⟩ ⟨k', d'⟩ he
  simp only [Dict.toList, Prod.mk.injEq, Json.obj.injEq] at he
  obtain ⟨rfl, hd⟩ := he
  refine Prod.ext rfl (Dict.ext ((List.map_inj_right ?_).mp hd))
  rintro ⟨_, _⟩ ⟨_, _⟩ hkv
  simp only [Prod.mk.injEq, Json.str.injEq] at hkv
  exact Prod.ext hkv.1 (hf hkv.2)

/-- Different sources have different JSON values: names, keys and values are kept, and Secret
bytes are kept through base64. -/
theorem toJson_injective : Function.Injective toJson := by
  rintro ⟨cms, secs⟩ ⟨cms', secs'⟩ h
  simp only [toJson, Dict.toList, Json.obj.injEq, List.cons.injEq, Prod.mk.injEq, true_and, and_true] at h
  obtain ⟨hc, hs⟩ := h
  rw [Dict.ext (map_namedObj_inj id Function.injective_id hc),
    Dict.ext (map_namedObj_inj Base64.encode Base64.encode_injective hs)]

/-- Different sources have different texts. -/
theorem text_injective : Function.Injective text := by
  intro a b h
  have hr : Json.render a.toJson = Json.render b.toJson := utf8_toList_injective h
  exact toJson_injective (Json.prefixCode_str.obj.obj.obj.render_inj (toJson_shape a) (toJson_shape b) hr)

end HashSource

/-- A fingerprint is the hexadecimal SHA-256 digest of the text of the hash source of its bindings.
-/
theorem fingerprint_eq (bs : List Binding) :
    fingerprint bs = Sha256.hex (Sha256.digest (HashSource.ofBindings bs).text) :=
  rfl

end ConfigRollout
