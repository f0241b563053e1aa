import ConfigRollout.Proofs.JsonRead
import ConfigRollout.Proofs.RolloutTrigger

/-!
# Reading a hash source back from its text

The text that a fingerprint digests is the UTF-8 form of the compact JSON of the hash source:
`{"configMaps":{name:{key:value}},"secrets":{name:{key:base64}}}`. Reading it back
(`HashSource.read?`) decodes UTF-8, reads the JSON, takes the two members in this order, and
reads each Secret value as base64; it gives back the source (`HashSource.read?_text`). So the
text of a source writes it down without loss, whatever its names, keys and values hold
(quotes, backslashes, control characters, commas, colons, braces).

Main statement (`hashSource_text_reads_back`): reading back the text recovers the source, two
sources with one text are equal (`HashSource.text_injective`, by the prefix-code argument), and
two lists of bindings with one fingerprint record the same in-scope data under every kind and
name, unless SHA-256 collides on their two texts. A missing
object is recorded as nothing and one with no data in scope as an empty map, and a ConfigMap and
a Secret are recorded under their own kinds, so neither pair has one fingerprint.
-/

set_option autoImplicit false

namespace ConfigRollout

/-- A list written by `f` and read by `g`, where `g` reads back what `f` writes, reads back. -/
theorem mapM_map_eq_some {α β : Type} {f : α → β} {g : β → Option α} (l : List α)
    (h : ∀ x ∈ l, g (f x) = some x) : (l.map f).mapM g = some l := by
  induction l with
  | nil => rfl
  | cons x l ih =>
      simp [List.mapM_cons, h x List.mem_cons_self, ih (fun y hy => h y (List.mem_cons_of_mem _ hy))]

namespace HashSource

variable {α : Type}

/-- A member whose value is a string, read by `read`. -/
def readMember? (read : String → Option α) : String × Json → Option (String × α)
  | (k, .str s) => (read s).map (fun a => (k, a))
  | _ => none

/-- The map that a JSON object of strings writes, each string read by `read`; its members
must come in increasing key order. -/
def readStrings? (read : String → Option α) : Json → Option (Dict α)
  | .obj fields => (fields.mapM (readMember? read)).bind Dict.ofSorted?
  | _ => none

/-- The named maps that a JSON object of objects of strings writes, names in increasing order. -/
def readNamed? (read : String → Option α) : Json → Option (Dict (Dict α))
  | .obj fields => (fields.mapM (fun f => (readStrings? read f.2).map (fun d => (f.1, d)))).bind Dict.ofSorted?
  | _ => none

/-- The source that a JSON value writes: the members `configMaps` and `secrets`, in this
order, with Secret values read as base64. -/
def ofJson? : Json → Option HashSource
  | .obj [("configMaps", configMaps), ("secrets", secrets)] => do
      let configMaps ← readNamed? some configMaps
      let secrets ← readNamed? Base64.decode secrets
      pure { configMaps, secrets }
  | _ => none

/-- The source that a text of bytes writes: UTF-8 text, then JSON, then the source. -/
def read? (bytes : List UInt8) : Option HashSource :=
  (String.fromUTF8? ⟨bytes.toArray⟩).bind fun text => (Json.parse text).bind ofJson?

section Write

variable (read : String → Option α) (write : α → String) (hrw : ∀ a, read (write a) = some a)
include hrw

/-- A map written as an object of strings, by a writer that its reader inverts, reads back. -/
theorem readStrings?_write (d : Dict α) :
    readStrings? read (.obj (d.toList.map (fun kv => (kv.1, .str (write kv.2))))) = some d := by
  simp only [readStrings?, Dict.toList]
  rw [mapM_map_eq_some d.entries (fun kv _ => by simp [readMember?, hrw])]
  exact Dict.ofSorted?_entries d

/-- Named maps written as an object of objects of strings read back. -/
theorem readNamed?_write (d : Dict (Dict α)) :
    readNamed? read (.obj (d.toList.map (fun e => (e.1, .obj (e.2.toList.map (fun kv => (kv.1, .str (write kv.2)))))))) =
      some d := by
  simp only [readNamed?, Dict.toList]
  -- each named map is read back by the map reader
  have hentry : ∀ e ∈ d.entries, (readStrings? read (.obj (e.2.entries.map (fun kv => (kv.1, .str (write kv.2)))))).map
      (fun d => (e.1, d)) = some e := by
    intro e _
    have hd := readStrings?_write read write hrw e.2
    simp only [Dict.toList] at hd
    simp [hd]
  rw [mapM_map_eq_some d.entries hentry]
  exact Dict.ofSorted?_entries d

end Write

/-- The JSON value of a source reads back as the source. -/
theorem ofJson?_toJson (src : HashSource) : ofJson? src.toJson = some src := by
  have hc := readNamed?_write some (fun s => s) (fun _ => rfl) src.configMaps
  have hs := readNamed?_write Base64.decode Base64.encode Base64.decode_encode src.secrets
  simp only [toJson, ofJson?]
  rw [hc, hs]
  rfl

/-- The text of a source reads back as the source. -/
theorem read?_text (src : HashSource) : read? src.text = some src := by
  -- the bytes are the UTF-8 form of the JSON text, which is valid
  have hbytes : (⟨src.text.toArray⟩ : ByteArray) = (Json.render src.toJson).toUTF8 := by
    rw [text, byteArray_toList_eq, Array.toArray_toList]
  have hutf8 : String.fromUTF8? (Json.render src.toJson).toUTF8 = some (Json.render src.toJson) := by
    simp [String.fromUTF8?, String.fromUTF8, (Json.render src.toJson).isValidUTF8]
  have hparse : Json.parse (Json.render src.toJson) = some src.toJson :=
    Json.parse_render Json.readsBack_str.obj.obj.obj (toJson_shape src)
  simp only [read?, hbytes, hutf8, Option.bind_some, hparse, ofJson?_toJson]

end HashSource

/-- Bindings with one fingerprint have one hash source, unless SHA-256 collides on the two
texts it digests. -/
theorem ofBindings_eq_of_fingerprint_eq {bs bs' : List Binding} (h : fingerprint bs = fingerprint bs') :
    HashSource.ofBindings bs = HashSource.ofBindings bs' ∨
      ((HashSource.ofBindings bs).text ≠ (HashSource.ofBindings bs').text ∧
        Sha256.digest (HashSource.ofBindings bs).text = Sha256.digest (HashSource.ofBindings bs').text) := by
  -- equal hexadecimal texts are equal digests
  have hdigest : Sha256.digest (HashSource.ofBindings bs).text = Sha256.digest (HashSource.ofBindings bs').text := by
    rw [fingerprint_eq, fingerprint_eq] at h
    exact Sha256.hex_injective h
  by_cases hsame : (HashSource.ofBindings bs).text = (HashSource.ofBindings bs').text
  · exact .inl (HashSource.text_injective hsame)
  · exact .inr ⟨hsame, hdigest⟩

/-- The text a fingerprint digests writes its hash source without loss: reading it back gives
the source, so sources with one text are equal, and bindings with one fingerprint record the
same in-scope data under every kind and name, unless SHA-256 collides on their texts. -/
theorem hashSource_text_reads_back :
    (∀ src : HashSource, HashSource.read? src.text = some src) ∧
      (∀ src src' : HashSource, src.text = src'.text ↔ src = src') ∧
      ∀ bs bs' : List Binding, fingerprint bs = fingerprint bs' →
        (∀ k n, (HashSource.ofBindings bs).entry k n = (HashSource.ofBindings bs').entry k n) ∨
          ((HashSource.ofBindings bs).text ≠ (HashSource.ofBindings bs').text ∧
            Sha256.digest (HashSource.ofBindings bs).text = Sha256.digest (HashSource.ofBindings bs').text) := by
  refine ⟨HashSource.read?_text, fun src src' => ⟨fun h => HashSource.text_injective h, congrArg _⟩,
    fun bs bs' hfp => ?_⟩
  rcases ofBindings_eq_of_fingerprint_eq hfp with heq | hcollide
  · exact .inl (fun k n => by rw [heq])
  · exact .inr hcollide

end ConfigRollout
