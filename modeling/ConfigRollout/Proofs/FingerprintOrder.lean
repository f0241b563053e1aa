import Mathlib.Data.List.Induction
import Mathlib.Data.Sum.Basic
import ConfigRollout.Proofs.RolloutTrigger

/-!
# The order of the bindings a fingerprint reads

The hash source of a list of bindings records, under each kind and name that occurs in the
list, the in-scope data of the last binding of that kind and name
(`HashSource.entry_ofBindings`), and nothing under any other. Its maps keep their keys in order,
so a source is determined by what it records (`HashSource.ext_of_entry`).

Main statement (`fingerprint_last_in_scope`): a fingerprint depends on the order of its
bindings only through the order of the bindings that share a kind and a name, so not at all
when no two do; and replacing an object by another of the same name and in-scope data (another
uid, version, labels, annotations, keys outside a partial use) keeps the fingerprint.
-/

set_option autoImplicit false

namespace ConfigRollout

/-! ## In-scope data -/

/-- The in-scope data of a use: every key of the data for a whole-object use, else the used
keys that are present, and nothing of absent data. -/
theorem get?_inScope {α : Type} (data : Option (Dict α)) (spec : RefSpec) (key : String) :
    (inScope data spec).get? key =
      if spec.allKeys = true ∨ key ∈ spec.keys then (data.getD Dict.empty).get? key else none := by
  unfold inScope
  by_cases ha : spec.allKeys = true
  · simp [ha]
  · simp [ha, Dict.get?_filter_key]

/-! ## The bindings of one kind and name -/

/-- The bindings of a kind and name, in order. -/
def bindingsNamed (bs : List Binding) (k : ConfigKind) (n : String) : List Binding :=
  bs.filter (fun b => b.object.kind = k ∧ b.object.name = n)

/-- Of bindings with distinct kinds and names, at most one has a given kind and name. -/
theorem length_bindingsNamed_le_one {bs : List Binding}
    (hnd : (bs.map (fun b => (b.object.kind, b.object.name))).Nodup) (k : ConfigKind) (n : String) :
    (bindingsNamed bs k n).length ≤ 1 := by
  have hsub : ((bindingsNamed bs k n).map (fun b => (b.object.kind, b.object.name))).Nodup :=
    hnd.sublist (List.filter_sublist.map _)
  -- every binding kept has the kind and name looked for
  have hrep : (bindingsNamed bs k n).map (fun b => (b.object.kind, b.object.name)) =
      List.replicate (bindingsNamed bs k n).length (k, n) := by
    rw [List.eq_replicate_iff]
    refine ⟨List.length_map _, fun p hp => ?_⟩
    obtain ⟨b, hb, rfl⟩ := List.mem_map.mp hp
    simp only [bindingsNamed, List.mem_filter, decide_eq_true_eq] at hb
    rw [hb.2.1, hb.2.2]
  rw [hrep, List.nodup_replicate] at hsub
  exact hsub

/-- A permutation of bindings with distinct kinds and names keeps the bindings of each kind and
name. -/
theorem bindingsNamed_perm {bs bs' : List Binding}
    (hnd : (bs.map (fun b => (b.object.kind, b.object.name))).Nodup) (hp : bs'.Perm bs) (k : ConfigKind) (n : String) :
    bindingsNamed bs' k n = bindingsNamed bs k n := by
  have hperm : (bindingsNamed bs' k n).Perm (bindingsNamed bs k n) := hp.filter _
  have hle := length_bindingsNamed_le_one hnd k n
  rcases hf : bindingsNamed bs k n with _ | ⟨b, _ | ⟨c, rest⟩⟩
  · rw [hf] at hperm
    exact hperm.eq_nil
  · rw [hf] at hperm
    exact hperm.eq_singleton
  · rw [hf] at hle
    simp at hle

/-! ## What the hash source records -/

namespace HashSource

/-- A source is determined by what it records under each kind and name. -/
theorem ext_of_entry {src src' : HashSource} (he : ∀ k n, src.entry k n = src'.entry k n) : src = src' := by
  obtain ⟨c, s⟩ := src
  obtain ⟨c', s'⟩ := src'
  have hc : c = c' :=
    Dict.ext_of_get? (fun n => Option.map_injective Sum.inl_injective (he .configMap n))
  have hs : s = s' :=
    Dict.ext_of_get? (fun n => Option.map_injective Sum.inr_injective (he .secret n))
  rw [hc, hs]

/-- The source of bindings records, under each kind and name, the in-scope data of the last
binding of that kind and name, and nothing when there is none. -/
theorem entry_ofBindings (bs : List Binding) (k : ConfigKind) (n : String) :
    (ofBindings bs).entry k n = ((bindingsNamed bs k n).getLast?).map (fun b => b.object.scopedData b.spec) := by
  unfold ofBindings bindingsNamed
  -- from the end of the list: the last binding overwrites what the ones before it recorded
  induction bs using List.reverseRecOn with
  | nil => simp
  | append_singleton bs b ih =>
      rw [List.foldl_concat, entry_add, ih, List.filter_append, List.getLast?_append]
      by_cases hb : b.object.kind = k ∧ b.object.name = n
      · simp [hb]
      · simp [hb]

/-- Bindings that agree, kind and name by kind and name and in order, build the same hash source. -/
theorem ofBindings_eq_of_bindingsNamed {bs bs' : List Binding}
    (h : ∀ k n, bindingsNamed bs' k n = bindingsNamed bs k n) : ofBindings bs' = ofBindings bs :=
  ext_of_entry (fun k n => by rw [entry_ofBindings, entry_ofBindings, h])

end HashSource

/-- A fingerprint digests the text of the hash source, which records the in-scope data of the
last binding of each kind and name. Its bindings can be reordered as long as those of one kind
and name keep their order, and freely when no two share a kind and name; and an object can be
replaced by one of the same name and in-scope data. -/
theorem fingerprint_last_in_scope (bs : List Binding) :
    fingerprint bs = Sha256.hex (Sha256.digest (HashSource.ofBindings bs).text) ∧
      (∀ k n, (HashSource.ofBindings bs).entry k n =
        ((bindingsNamed bs k n).getLast?).map (fun b => b.object.scopedData b.spec)) ∧
      (∀ bs' : List Binding, (∀ k n, bindingsNamed bs' k n = bindingsNamed bs k n) →
        fingerprint bs' = fingerprint bs) ∧
      ((bs.map (fun b => (b.object.kind, b.object.name))).Nodup →
        ∀ bs' : List Binding, bs'.Perm bs → fingerprint bs' = fingerprint bs) ∧
      (∀ (l r : List Binding) (o o' : ConfigObject) (spec : RefSpec), bs = l ++ ⟨o, spec⟩ :: r →
        o'.name = o.name → o'.scopedData spec = o.scopedData spec →
        fingerprint (l ++ ⟨o', spec⟩ :: r) = fingerprint bs) := by
  have hnamed : ∀ bs' : List Binding, (∀ k n, bindingsNamed bs' k n = bindingsNamed bs k n) →
      fingerprint bs' = fingerprint bs := by
    intro bs' h
    rw [fingerprint_eq, fingerprint_eq, HashSource.ofBindings_eq_of_bindingsNamed h]
  refine ⟨fingerprint_eq bs, HashSource.entry_ofBindings bs, hnamed,
    fun hnd bs' hp => hnamed bs' (bindingsNamed_perm hnd hp), ?_⟩
  -- a replaced object of the same name and in-scope data has the same content
  rintro l r o o' spec rfl hname hdata
  apply fingerprint_congr
  simp [Binding.content, hname, hdata]

end ConfigRollout
