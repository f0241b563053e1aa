import ConfigRollout.Fingerprint
import ConfigRollout.Proofs.Store

/-!
# What a fingerprint reads

Of a binding, the fingerprint reads the object's name, its kind and the part of its data that
the use reads: its content (`Binding.content`). Main statement: bindings with the same contents,
in order, have the same fingerprint (`fingerprint_congr`). A change of an object's metadata
that keeps its name keeps its content (`Binding.content_setMetadata`), so neither links nor
versions enter a fingerprint.
-/

set_option autoImplicit false

namespace ConfigRollout

/-- The in-scope data of an object under a use, on the side of its kind. -/
def ConfigObject.scopedData (o : ConfigObject) (spec : RefSpec) : Dict String ⊕ Dict (List UInt8) :=
  match o with
  | .configMap _ data => .inl (inScope data spec)
  | .secret _ data => .inr (inScope data spec)

namespace Binding

/-- What of a binding enters the fingerprint: the object's name and its in-scope data. -/
def content (b : Binding) : String × (Dict String ⊕ Dict (List UInt8)) :=
  (b.object.name, b.object.scopedData b.spec)

/-- New metadata with the same name keeps what a binding contributes to the fingerprint. -/
theorem content_setMetadata (o : ConfigObject) (m : ObjectMeta) (spec : RefSpec)
    (h : m.nameAny = o.name) : content ⟨o.setMetadata m, spec⟩ = content ⟨o, spec⟩ := by
  simp only [content, ConfigObject.name_setMetadata, h, Prod.mk.injEq, true_and]
  cases o <;> rfl

/-- A write, which moves the version on, keeps what a binding contributes to the fingerprint. -/
theorem content_written (o : ConfigObject) (spec : RefSpec) :
    content ⟨o.written, spec⟩ = content ⟨o, spec⟩ :=
  content_setMetadata o _ spec rfl

end Binding

namespace HashSource

/-- Adding bindings of one content adds the same. -/
theorem add_congr {b b' : Binding} (h : b.content = b'.content) (s : HashSource) : s.add b = s.add b' := by
  obtain ⟨o, spec⟩ := b
  obtain ⟨o', spec'⟩ := b'
  simp only [Binding.content, Prod.mk.injEq] at h
  obtain ⟨hname, hdata⟩ := h
  -- bindings of different kinds have different contents
  cases o <;> cases o' <;>
    simp only [ConfigObject.scopedData, Sum.inl.injEq, Sum.inr.injEq, reduceCtorEq] at hdata
  · simp only [add, hname, hdata]
  · simp only [add, hname, hdata]

/-- Bindings that contribute the same, one by one, build the same hash source. -/
theorem foldl_add_congr {bs bs' : List Binding} (h : bs.map Binding.content = bs'.map Binding.content)
    (s : HashSource) : bs.foldl add s = bs'.foldl add s := by
  induction bs generalizing bs' s with
  | nil =>
      cases bs' with
      | nil => rfl
      | cons _ _ => simp at h
  | cons b rest ih =>
      cases bs' with
      | nil => simp at h
      | cons b' rest' =>
          simp only [List.map_cons, List.cons.injEq] at h
          simp only [List.foldl_cons, add_congr h.1, ih h.2]

end HashSource

/-- The fingerprint reads the contents of the bindings, in order, and nothing else. -/
theorem fingerprint_congr {bs bs' : List Binding} (h : bs.map Binding.content = bs'.map Binding.content) :
    fingerprint bs = fingerprint bs' := by
  unfold fingerprint HashSource.ofBindings
  rw [HashSource.foldl_add_congr h]

end ConfigRollout
