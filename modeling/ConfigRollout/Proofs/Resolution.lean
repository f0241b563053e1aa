import Mathlib.Data.List.Sort
import ConfigRollout.Proofs.KeyOrder

/-!
# The uses of a pod specification, read declaratively

`PodSpec.resolve` collects the uses of a pod specification in two passes over its references:
the whole-object references first, then the key references, which leave a whole-object use
alone and otherwise add their key and possibly the requirement. Read declaratively
(`PodSpec.Declares`), an object of a kind and name is

* used whole when some volume, projected source, or `envFrom` of an init container or a
  container names it (`PodSpec.UsesWhole`), whatever its key references say;
* otherwise used by keys when some variable of an init container or a container takes a key of
  it (`PodSpec.KeyRefOf`): required when one of those references is not marked optional, with
  exactly their keys, in increasing order (`RefSpec.KeyedBy`);
* and not used at all otherwise.

Main statement (`resolve_declared`): the uses that `resolve` collects are that reading. The
reading looks only at which references a specification has, not at their order or their
number, so reordering volumes, containers, sources or variables, or repeating a reference,
resolves to the same uses.
-/

set_option autoImplicit false

namespace ConfigRollout

/-! ## Keys in increasing order -/

/-- Inserting a key into a sorted list of keys adds exactly that key. -/
theorem mem_insertSorted {k x : String} {l : List String} : x ∈ insertSorted k l ↔ x = k ∨ x ∈ l := by
  induction l with
  | nil => simp [insertSorted]
  | cons k' rest ih =>
      simp only [insertSorted]
      split
      · simp
      · split
        · rename_i heq
          subst heq
          simp
        · simp only [List.mem_cons, ih]
          tauto

/-- Inserting a key keeps a list of keys strictly increasing. -/
theorem pairwise_insertSorted (k : String) {l : List String} (h : l.Pairwise (· < ·)) :
    (insertSorted k l).Pairwise (· < ·) := by
  induction l with
  | nil => simp [insertSorted]
  | cons k' rest ih =>
      rw [List.pairwise_cons] at h
      simp only [insertSorted]
      split
      · -- `k` goes first: it is below `k'`, hence below every later key
        rename_i hlt
        refine List.Pairwise.cons (fun x hx => ?_) (List.Pairwise.cons h.1 h.2)
        rcases List.mem_cons.mp hx with rfl | hx
        · exact hlt
        · exact lt_trans hlt (h.1 x hx)
      · split
        · exact List.Pairwise.cons h.1 h.2
        · -- `k` goes further on, past `k'`, which stays below it
          rename_i hlt hne
          have hgt : k' < k := lt_of_le_of_ne (not_lt.mp hlt) (Ne.symm hne)
          refine List.Pairwise.cons (fun x hx => ?_) (ih h.2)
          rcases mem_insertSorted.mp hx with rfl | hx
          · exact hgt
          · exact h.1 x hx

/-! ## A use by keys -/

namespace RefSpec

/-- A use by the keys of the key references `R` to its object: required when one of them is not
marked optional, and with exactly their keys, in increasing order. -/
structure KeyedBy (m : RefSpec) (R : KeyRef → Prop) : Prop where
  /-- Not a use of the whole object. -/
  not_allKeys : m.allKeys = false
  /-- Required exactly when one of the references is not marked optional. -/
  required_iff : m.required = true ↔ ∃ ref, R ref ∧ ref.optional ≠ some true
  /-- The keys in strictly increasing order. -/
  sorted : m.keys.Pairwise (· < ·)
  /-- The keys are those of the references. -/
  mem_keys : ∀ key, key ∈ m.keys ↔ ∃ ref, R ref ∧ ref.key = key

/-- The use after key references to its object, in order. -/
def addKeys (m : RefSpec) (refs : List KeyRef) : RefSpec :=
  refs.foldl (fun m ref => m.addKey ref.key ref.optional) m

@[simp] theorem addKeys_nil (m : RefSpec) : m.addKeys [] = m := rfl

@[simp] theorem addKeys_cons (m : RefSpec) (ref : KeyRef) (refs : List KeyRef) :
    m.addKeys (ref :: refs) = (m.addKey ref.key ref.optional).addKeys refs := rfl

/-- A whole-object use absorbs every key reference to its object. -/
theorem whole_addKeys (refs : List KeyRef) : whole.addKeys refs = whole := by
  induction refs with
  | nil => rfl
  | cons ref refs ih => rw [addKeys_cons, addKey_whole, ih]

/-- The empty use is the use by no key reference. -/
theorem keyedBy_empty : ({} : RefSpec).KeyedBy (fun _ => False) where
  not_allKeys := rfl
  required_iff := by simp
  sorted := List.Pairwise.nil
  mem_keys := by simp

/-- A use by the keys of some references is one by the keys of any same references. -/
theorem KeyedBy.congr {m : RefSpec} {R R' : KeyRef → Prop} (h : m.KeyedBy R) (hR : ∀ ref, R ref ↔ R' ref) :
    m.KeyedBy R' where
  not_allKeys := h.not_allKeys
  required_iff := by simpa only [hR] using h.required_iff
  sorted := h.sorted
  mem_keys := by simpa only [hR] using h.mem_keys

/-- One more key reference: a use by keys becomes required by it unless it is marked optional,
and gains its key. -/
theorem KeyedBy.addKey {m : RefSpec} {R : KeyRef → Prop} (h : m.KeyedBy R) (ref : KeyRef) :
    (m.addKey ref.key ref.optional).KeyedBy (fun r => R r ∨ r = ref) := by
  have hadd : m.addKey ref.key ref.optional =
      { m with required := m.required || ref.optional != some true, keys := insertSorted ref.key m.keys } := by
    simp [RefSpec.addKey, h.not_allKeys]
  rw [hadd]
  constructor
  · exact h.not_allKeys
  · simp only [Bool.or_eq_true, bne_iff_ne, h.required_iff]
    constructor
    · rintro (⟨r, hr, ho⟩ | ho)
      · exact ⟨r, .inl hr, ho⟩
      · exact ⟨ref, .inr rfl, ho⟩
    · rintro ⟨r, hr | rfl, ho⟩
      · exact .inl ⟨r, hr, ho⟩
      · exact .inr ho
  · exact pairwise_insertSorted _ h.sorted
  · intro key
    simp only [mem_insertSorted, h.mem_keys key]
    constructor
    · rintro (rfl | ⟨r, hr, rfl⟩)
      · exact ⟨ref, .inr rfl, rfl⟩
      · exact ⟨r, .inl hr, rfl⟩
    · rintro ⟨r, hr | rfl, rfl⟩
      · exact .inr ⟨r, hr, rfl⟩
      · exact .inl rfl

/-- Key references added in order, each like `addKey`, give the use by the keys of the old
references and the new ones: required when one of them is not marked optional, with all their keys.
-/
theorem KeyedBy.addKeys {m : RefSpec} {R : KeyRef → Prop} (h : m.KeyedBy R) (refs : List KeyRef) :
    (m.addKeys refs).KeyedBy (fun r => R r ∨ r ∈ refs) := by
  induction refs generalizing m R with
  | nil => exact h.congr (by simp)
  | cons ref refs ih =>
      rw [addKeys_cons]
      refine (ih (h.addKey ref)).congr (fun r => ?_)
      simp only [List.mem_cons]
      tauto

/-- Two uses by the keys of the same references are equal: a sorted list is fixed by its members. -/
theorem KeyedBy.unique {m m' : RefSpec} {R : KeyRef → Prop} (h : m.KeyedBy R) (h' : m'.KeyedBy R) : m = m' := by
  obtain ⟨r, a, ks⟩ := m
  obtain ⟨r', a', ks'⟩ := m'
  have hr : r = r' := Bool.eq_iff_iff.mpr (h.required_iff.trans h'.required_iff.symm)
  have ha : a = a' := h.not_allKeys.trans h'.not_allKeys.symm
  have hks : ks = ks' :=
    List.Pairwise.eq_of_mem_iff h.sorted h'.sorted (fun key => (h.mem_keys key).trans (h'.mem_keys key).symm)
  rw [hr, ha, hks]

end RefSpec

/-! ## The two passes -/

namespace References

@[simp] theorem get_empty (k : ConfigKind) : ({} : References).get k = Dict.empty := by
  cases k <;> rfl

/-- Changing the map of one kind leaves the map of the other kind as it was. -/
theorem get_modify (r : References) (k k' : ConfigKind) (f : Dict RefSpec → Dict RefSpec) :
    (r.modify k f).get k' = if k = k' then f (r.get k') else r.get k' := by
  cases k <;> cases k' <;> rfl

/-- A whole-object use of a kind and name is recorded under them, and nothing else changes. -/
theorem get?_addWhole (r : References) (k k' : ConfigKind) (name n : String) :
    ((r.addWhole k name).get k').get? n = if k = k' ∧ name = n then some RefSpec.whole else (r.get k').get? n := by
  unfold addWhole
  rw [get_modify]
  by_cases hk : k = k' <;> by_cases hn : name = n <;> simp [hk, hn]

/-- A key reference changes the use of its kind and name by `addKey`, starting from the empty use
when there was none, and nothing else. -/
theorem get?_addKey (r : References) (k k' : ConfigKind) (ref : KeyRef) (n : String) :
    ((r.addKey k ref).get k').get? n =
      if k = k' ∧ ref.name = n then some ((((r.get k').get? n).getD {}).addKey ref.key ref.optional)
      else (r.get k').get? n := by
  unfold addKey
  rw [get_modify]
  by_cases hk : k = k' <;> by_cases hn : ref.name = n <;> simp [hk, hn]

/-- Two sets of references with the same map of each kind are equal. -/
theorem ext_of_get {r r' : References} (h : ∀ k, r.get k = r'.get k) : r = r' := by
  obtain ⟨c, s⟩ := r
  obtain ⟨c', s'⟩ := r'
  have hc := h .configMap
  have hs := h .secret
  simp only [get] at hc hs
  rw [hc, hs]

/-- After the whole-object pass, an object named by it is used whole. -/
theorem get?_foldl_addWhole (l : List (ConfigKind × String)) (r : References) (k : ConfigKind) (n : String) :
    ((l.foldl (fun r e => r.addWhole e.1 e.2) r).get k).get? n =
      if (k, n) ∈ l then some RefSpec.whole else (r.get k).get? n := by
  induction l generalizing r with
  | nil => simp
  | cons e rest ih =>
      rw [List.foldl_cons, ih, get?_addWhole]
      obtain ⟨k', n'⟩ := e
      by_cases h : (k, n) ∈ rest
      · simp [h]
      · by_cases he : k' = k ∧ n' = n
        · obtain ⟨rfl, rfl⟩ := he
          simp
        · have hne : (k, n) ≠ (k', n') := fun heq => he (by simp_all)
          simp [h, he, hne]

/-- The key references to the object of a kind and name, in order. -/
def keyRefsTo (l : List (ConfigKind × KeyRef)) (k : ConfigKind) (n : String) : List KeyRef :=
  (l.filter (fun e => e.1 = k ∧ e.2.name = n)).map Prod.snd

/-- The key references to an object are the references of its kind that name it. -/
theorem mem_keyRefsTo {l : List (ConfigKind × KeyRef)} {k : ConfigKind} {n : String} {ref : KeyRef} :
    ref ∈ keyRefsTo l k n ↔ (k, ref) ∈ l ∧ ref.name = n := by
  simp only [keyRefsTo, List.mem_map, List.mem_filter, decide_eq_true_eq]
  constructor
  · rintro ⟨⟨k', r⟩, ⟨hmem, rfl, rfl⟩, rfl⟩
    exact ⟨hmem, rfl⟩
  · rintro ⟨hmem, rfl⟩
    exact ⟨(k, ref), ⟨hmem, rfl, rfl⟩, rfl⟩

/-- After the key pass, an object is used as before with the keys of its references added; an
object without a key reference keeps its use, or its absence. -/
theorem get?_foldl_addKey (l : List (ConfigKind × KeyRef)) (r : References) (k : ConfigKind) (n : String) :
    ((l.foldl (fun r e => r.addKey e.1 e.2) r).get k).get? n =
      if keyRefsTo l k n = [] then (r.get k).get? n
      else some ((((r.get k).get? n).getD {}).addKeys (keyRefsTo l k n)) := by
  induction l generalizing r with
  | nil => simp [keyRefsTo]
  | cons e rest ih =>
      rw [List.foldl_cons, ih, get?_addKey]
      obtain ⟨k', ref⟩ := e
      by_cases he : k' = k ∧ ref.name = n
      · -- a reference to the object: the use gains its key, and so does every later one
        obtain ⟨rfl, rfl⟩ := he
        have hcons : keyRefsTo ((k', ref) :: rest) k' ref.name = ref :: keyRefsTo rest k' ref.name := by
          simp [keyRefsTo]
        rw [hcons]
        by_cases hrest : keyRefsTo rest k' ref.name = [] <;> simp [hrest]
      · have hskip : keyRefsTo ((k', ref) :: rest) k n = keyRefsTo rest k n := by
          simp [keyRefsTo, he]
        rw [hskip]
        simp [he]

end References

/-! ## The declarative reading -/

namespace PodSpec

/-- Whether a volume, a projected source, or an `envFrom` of an init container or a container
names the object of a kind and name. -/
def UsesWhole (s : PodSpec) : ConfigKind → String → Prop
  | .configMap, n =>
      (∃ v ∈ s.volumes, v.configMap = some n ∨ ∃ p ∈ v.projections, p.configMap = some n) ∨
        ∃ c ∈ s.initContainers ++ s.containers, ∃ e ∈ c.envFrom, e.configMapRef = some n
  | .secret, n =>
      (∃ v ∈ s.volumes, v.secretName = some n ∨ ∃ p ∈ v.projections, p.secret = some n) ∨
        ∃ c ∈ s.initContainers ++ s.containers, ∃ e ∈ c.envFrom, e.secretRef = some n

/-- Whether a variable of an init container or a container takes its value from a key
reference to an object of a kind. -/
def KeyRefOf (s : PodSpec) : ConfigKind → KeyRef → Prop
  | .configMap, ref => ∃ c ∈ s.initContainers ++ s.containers, ∃ v ∈ c.env, ∃ src,
      v.valueFrom = some src ∧ src.configMapKeyRef = some ref
  | .secret, ref => ∃ c ∈ s.initContainers ++ s.containers, ∃ v ∈ c.env, ∃ src,
      v.valueFrom = some src ∧ src.secretKeyRef = some ref

/-- The use of the object of a kind and name that a pod specification declares: whole when
something uses it whole, else by the keys of its key references when it has some, else none. -/
def Declares (s : PodSpec) (k : ConfigKind) (n : String) : Option RefSpec → Prop
  | none => ¬ s.UsesWhole k n ∧ ∀ ref, s.KeyRefOf k ref → ref.name ≠ n
  | some m => (s.UsesWhole k n ∧ m = RefSpec.whole) ∨
      (¬ s.UsesWhole k n ∧ (∃ ref, s.KeyRefOf k ref ∧ ref.name = n) ∧
        m.KeyedBy (fun ref => s.KeyRefOf k ref ∧ ref.name = n))

/-- The whole-object names a pod specification collects are those of its whole-object uses. -/
theorem mem_wholeNames_iff (s : PodSpec) (k : ConfigKind) (n : String) :
    (k, n) ∈ s.wholeNames ↔ s.UsesWhole k n := by
  cases k <;>
    simp [wholeNames, envContainers, volumeWholes, envFromWholes, UsesWhole, List.mem_flatMap,
      Option.mem_toList, Option.map_eq_some_iff, or_and_right, exists_or]

/-- The key references of a container are the `configMapKeyRef` and `secretKeyRef` of its variables.
-/
theorem mem_envKeyRefs {c : Container} {k : ConfigKind} {ref : KeyRef} :
    (k, ref) ∈ envKeyRefs c ↔ ∃ v ∈ c.env, ∃ src, v.valueFrom = some src ∧
      ((k = .configMap ∧ src.configMapKeyRef = some ref) ∨ (k = .secret ∧ src.secretKeyRef = some ref)) := by
  unfold envKeyRefs
  simp only [List.mem_flatMap]
  refine exists_congr (fun v => and_congr_right (fun _ => ?_))
  rcases hv : v.valueFrom with _ | src
  · simp
  · simp [Option.mem_toList, Option.map_eq_some_iff, eq_comm, and_comm]

/-- The key references a pod specification collects are its key references, over init containers and
containers. -/
theorem mem_keyRefs_iff (s : PodSpec) (k : ConfigKind) (ref : KeyRef) :
    (k, ref) ∈ s.keyRefs ↔ s.KeyRefOf k ref := by
  cases k <;>
    simp [keyRefs, envContainers, mem_envKeyRefs, KeyRefOf, List.mem_flatMap, or_and_right, exists_or]

/-- A pod specification declares at most one use of an object of a kind and name. -/
theorem Declares.unique {s : PodSpec} {k : ConfigKind} {n : String} {o o' : Option RefSpec}
    (h : s.Declares k n o) (h' : s.Declares k n o') : o = o' := by
  cases o with
  | none =>
      cases o' with
      | none => rfl
      | some m' =>
          obtain ⟨hw, hk⟩ := h
          rcases h' with ⟨hw', -⟩ | ⟨-, ⟨ref, href, hn⟩, -⟩
          · exact absurd hw' hw
          · exact absurd hn (hk ref href)
  | some m =>
      cases o' with
      | none =>
          obtain ⟨hw, hk⟩ := h'
          rcases h with ⟨hw', -⟩ | ⟨-, ⟨ref, href, hn⟩, -⟩
          · exact absurd hw' hw
          · exact absurd hn (hk ref href)
      | some m' =>
          rcases h with ⟨hw, rfl⟩ | ⟨hw, -, hm⟩ <;> rcases h' with ⟨hw', rfl⟩ | ⟨hw', -, hm'⟩
          · rfl
          · exact absurd hw hw'
          · exact absurd hw' hw
          · rw [hm.unique hm']

/-- The reading looks only at which references a specification has. -/
theorem declares_congr {s t : PodSpec} (hw : ∀ k n, t.UsesWhole k n ↔ s.UsesWhole k n)
    (hk : ∀ k ref, t.KeyRefOf k ref ↔ s.KeyRefOf k ref) (k : ConfigKind) (n : String) (o : Option RefSpec) :
    t.Declares k n o ↔ s.Declares k n o := by
  cases o <;> simp only [Declares, hw, hk]

/-- The uses collected by the two passes are the declared ones. -/
theorem declares_resolve (s : PodSpec) (k : ConfigKind) (n : String) : s.Declares k n ((s.resolve.get k).get? n) := by
  have hrefs : ∀ ref, ref ∈ References.keyRefsTo s.keyRefs k n ↔ s.KeyRefOf k ref ∧ ref.name = n := by
    intro ref
    rw [References.mem_keyRefsTo, mem_keyRefs_iff]
  unfold resolve
  rw [References.get?_foldl_addKey, References.get?_foldl_addWhole, References.get_empty, Dict.get?_empty]
  by_cases hw : (k, n) ∈ s.wholeNames
  · -- used whole: the key references leave the use alone
    simp only [hw, if_true, Option.getD_some, RefSpec.whole_addKeys, ite_self]
    exact .inl ⟨(mem_wholeNames_iff s k n).mp hw, rfl⟩
  · have hw' : ¬ s.UsesWhole k n := fun h => hw ((mem_wholeNames_iff s k n).mpr h)
    simp only [hw, if_false, Option.getD_none]
    split
    · -- no key reference either: not used
      rename_i hnil
      refine ⟨hw', fun ref href hn => ?_⟩
      have hmem : ref ∈ References.keyRefsTo s.keyRefs k n := (hrefs ref).mpr ⟨href, hn⟩
      rw [hnil] at hmem
      exact List.not_mem_nil hmem
    · -- used by the keys of its key references
      rename_i hne
      obtain ⟨ref, href⟩ := List.exists_mem_of_ne_nil _ hne
      refine .inr ⟨hw', ⟨ref, (hrefs ref).mp href⟩, ?_⟩
      refine (RefSpec.keyedBy_empty.addKeys _).congr (fun r => ?_)
      rw [← hrefs r]
      simp

end PodSpec

/-- The uses that a pod specification resolves to are its declared uses; so two specifications
with the same references, in whatever order and number, resolve alike. -/
theorem resolve_declared (s : PodSpec) :
    (∀ k n, s.Declares k n ((s.resolve.get k).get? n)) ∧
      ∀ t : PodSpec, (∀ k n, t.UsesWhole k n ↔ s.UsesWhole k n) → (∀ k ref, t.KeyRefOf k ref ↔ s.KeyRefOf k ref) →
        t.resolve = s.resolve := by
  refine ⟨PodSpec.declares_resolve s, fun t hw hk => ?_⟩
  -- both resolve to maps, which their lookups determine
  refine References.ext_of_get (fun k => Dict.ext_of_get? (fun n => ?_))
  have ht := (PodSpec.declares_congr hw hk k n _).mp (PodSpec.declares_resolve t k n)
  exact ht.unique (PodSpec.declares_resolve s k n)

end ConfigRollout
