import ConfigRollout.Ownership.Link

/-!
# The link-key codec and the workloads a config object wakes up

An owner's link key is the owner prefix followed by the workload's name. Reading a key back
strips the prefix and trims White_Space from both ends, and refuses an empty name; so reading is
many-to-one, and it inverts writing exactly on names that equal their own trim.

* `ownerName?_ownerKey_trim`: reading a written key gives the trimmed name, or nothing when the
  trim is empty.
* `ownerName?_eq_some_iff`: the keys read as `t` are exactly the written keys of the names whose
  trim is `t`, and `t` is not empty.
* `linkedWorkloads_eq_filterMap`: a change of a config object wakes up, within its namespace,
  the owner of every annotation key that reads as one, in key order.

Main statement (`ownerKey_codec`): the three together, and hence a link written for a valid
name makes its object wake that workload up.
-/

set_option autoImplicit false

namespace ConfigRollout

/-- A key that looks up a value is one of the map's keys. -/
theorem Dict.mem_keys_of_get? {α : Type} {d : Dict α} {k : String} {v : α} (h : d.get? k = some v) :
    k ∈ d.keys := by
  obtain ⟨e, he, -⟩ := Option.map_eq_some_iff.mp h
  have hk : e.1 = k := by simpa using List.find?_some he
  exact List.mem_map.mpr ⟨e, List.mem_of_find?_eq_some he, hk⟩

namespace Ownership

/-- The rest of a list after a prefix is found exactly when the list is the prefix followed by
it. -/
theorem dropPrefix?_eq_some_iff : ∀ (p l rest : List Char), dropPrefix? p l = some rest ↔ l = p ++ rest
  | [], l, rest => by simp [dropPrefix?]
  | _ :: _, [], rest => by simp [dropPrefix?]
  | a :: p, c :: l, rest => by
      by_cases hac : a = c
      · subst hac
        simp [dropPrefix?, dropPrefix?_eq_some_iff p l rest]
      · simp [dropPrefix?, hac, Ne.symm hac]

/-- Reading the key written for a name gives the name trimmed of White_Space, unless that is
empty. -/
theorem ownerName?_ownerKey_trim (s : String) :
    ownerName? (ownerKey s) = if Text.trim s = "" then none else some (Text.trim s) := by
  rw [ownerName?_ownerKey]
  simp [Text.trim]

/-- A key is read as an owner's name exactly when it is written for some name whose trim is
that name, and the name is not empty. -/
theorem ownerName?_eq_some_iff (k t : String) :
    ownerName? k = some t ↔ t ≠ "" ∧ ∃ u, k = ownerKey u ∧ Text.trim u = t := by
  constructor
  · intro h
    unfold ownerName? at h
    cases hd : dropPrefix? ownerPrefix.toList k.toList with
    | none => simp [hd] at h
    | some rest =>
        have hk : k.toList = ownerPrefix.toList ++ rest := (dropPrefix?_eq_some_iff _ _ _).mp hd
        simp only [hd] at h
        by_cases he : (Text.trimChars rest).isEmpty = true
        · simp [he] at h
        · simp only [he, Bool.false_eq_true, if_false, Option.some.injEq] at h
          subst h
          -- the rest after the prefix is the name the key was written for
          refine ⟨by simpa using he, String.ofList rest, String.ext (by simp [ownerKey, hk]), ?_⟩
          simp [Text.trim]
  · rintro ⟨ht, u, rfl, rfl⟩
    rw [ownerName?_ownerKey_trim, if_neg ht]

end Ownership

open Ownership

namespace ConfigObject

/-- The workloads an object wakes up: none without a namespace; otherwise, within it, the owner
read from each annotation key that reads as one, in key order. -/
theorem linkedWorkloads_eq_filterMap (c : ConfigObject) :
    c.linkedWorkloads =
      match c.metadata.ns with
      | none => []
      | some ns => c.metadata.annotationsOrEmpty.keys.filterMap (fun k => (ownerName? k).map (⟨·, ns⟩)) := by
  unfold linkedWorkloads ownerNames
  cases c.metadata.ns with
  | none => rfl
  | some ns => simp [List.map_filterMap]

/-- Setting a link keeps the namespace of an object. -/
@[simp] theorem ns_setOwnerLink (c : ConfigObject) (owner kind : String) :
    (c.setOwnerLink owner kind).metadata.ns = c.metadata.ns := by
  simp [setOwnerLink]

/-- After a link is written for a name, the object has its key among its annotation keys. -/
theorem ownerKey_mem_keys_setOwnerLink (c : ConfigObject) (owner kind : String) :
    ownerKey owner ∈ (c.setOwnerLink owner kind).metadata.annotationsOrEmpty.keys := by
  have hget : (c.setOwnerLink owner kind).metadata.annotationsOrEmpty.get? (ownerKey owner) = some kind := by
    simp [setOwnerLink, ObjectMeta.annotationsOrEmpty]
  exact Dict.mem_keys_of_get? hget

/-- A link written for a name equal to its own trim, and not empty, wakes that workload up in
the object's namespace. -/
theorem mem_linkedWorkloads_setOwnerLink (c : ConfigObject) {n : String} (kind : String) {ns : String}
    (hn : n ≠ "") (htrim : Text.trim n = n) (hns : c.metadata.ns = some ns) :
    ⟨n, ns⟩ ∈ (c.setOwnerLink n kind).linkedWorkloads := by
  have hread : ownerName? (ownerKey n) = some n := by
    rw [ownerName?_ownerKey_trim, htrim, if_neg hn]
  rw [linkedWorkloads_eq_filterMap, ns_setOwnerLink, hns]
  exact List.mem_filterMap.mpr ⟨ownerKey n, ownerKey_mem_keys_setOwnerLink c n kind, by simp [hread]⟩

end ConfigObject

/-- The link-key codec and the workloads it wakes up. Reading the key written for any name gives
its White_Space trim, or nothing when that is empty. A key reads as `t` exactly when `t` is not
empty and the key is written for a name whose trim is `t`. A config object without a namespace
wakes up no workload; one with a namespace wakes up, within it, the owner read from each of its
annotation keys, in key order. So a link written, of any kind, for a name that equals its trim
and is not empty makes a namespaced object wake that workload up. -/
theorem ownerKey_codec :
    (∀ s : String, ownerName? (ownerKey s) = if Text.trim s = "" then none else some (Text.trim s)) ∧
      (∀ k t : String, ownerName? k = some t ↔ t ≠ "" ∧ ∃ u, k = ownerKey u ∧ Text.trim u = t) ∧
      (∀ c : ConfigObject, c.linkedWorkloads =
        match c.metadata.ns with
        | none => []
        | some ns => c.metadata.annotationsOrEmpty.keys.filterMap (fun k => (ownerName? k).map (⟨·, ns⟩))) ∧
      ∀ (c : ConfigObject) (n kind ns : String), n ≠ "" → Text.trim n = n → c.metadata.ns = some ns →
        ⟨n, ns⟩ ∈ (c.setOwnerLink n kind).linkedWorkloads :=
  ⟨ownerName?_ownerKey_trim, ownerName?_eq_some_iff, ConfigObject.linkedWorkloads_eq_filterMap,
    fun c _ kind _ hn htrim hns => c.mem_linkedWorkloads_setOwnerLink kind hn htrim hns⟩

/-- A ConfigMap of namespace `default` linked for `web` wakes up `web` in `default`. -/
theorem ownerKey_codec_web :
    let c : ConfigObject := .configMap { name := some "app", ns := some "default" } none
    ("web" ≠ "" ∧ Text.trim "web" = "web") ∧
      (⟨"web", "default"⟩ : WorkloadRef) ∈ (c.setOwnerLink "web" "Deployment").linkedWorkloads :=
  ⟨⟨by decide, by decide⟩, ownerKey_codec.2.2.2 _ "web" "Deployment" "default" (by decide) (by decide) rfl⟩

end ConfigRollout
