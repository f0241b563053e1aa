import ConfigRollout.Proofs.Store
import ConfigRollout.Proofs.KeyOrder
import ConfigRollout.Reconcile.Children

/-!
# Reading the children from the in-memory store

Over the in-memory store both halves of gathering the children are pure reads: they leave the
store as it was, and their answers are functions of it.

* The current children (`MemoryStore.currentAnswer`) are found exactly when every use can be
  fetched (`MemoryStore.Fetchable`: no get of it fails, and a required object is stored); they
  are then the stored objects of the uses, in reference order, each with its use
  (`MemoryStore.bindingsAt`). Main statement: `currentAnswer_eq_ok_iff`.
* The existing children (`MemoryStore.existingAnswer`) are listed exactly when no list fails;
  they are then the stored objects of the namespace whose link the workload owns, each once
  (`mem_ownedBy_iff`, `nodup_ownedBy_keys`).

The in-memory store refuses no request in advance, so neither read fails before it starts
(`listsRefused_memory`, `fetchesRefused_memory`).
-/

set_option autoImplicit false

namespace ConfigRollout

open Reconcile

/-- A list of reads over the store is read element by element, and leaves the store as it was. -/
theorem run_mapM_of_reads {α β : Type} (f : α → StateM MemoryStore β) (g : α → β) (s : MemoryStore)
    (hf : ∀ a, (f a).run s = pure (g a, s)) (l : List α) : (l.mapM f).run s = pure (l.map g, s) := by
  induction l with
  | nil => rfl
  | cons a l ih => simp [List.mapM_cons, hf, ih]

namespace MemoryStore

/-- Whether the gets of a config object fail. -/
def getFails (s : MemoryStore) (k : ConfigKind) (name : String) : Bool :=
  s.failingGets.contains (k, name)

/-- The answer of fetching one used object: its binding, nothing for a missing object that is
not required, and a child failure otherwise. -/
def fetchAnswer (s : MemoryStore) (ns : String) (use : ConfigKind × String × RefSpec) :
    Except ChildError (Option Binding) :=
  if s.getFails use.1 use.2.1 then .error (.mk use.1.name use.2.1 (injectedFailure use.2.1))
  else match s.config? ⟨use.1, ns, use.2.1⟩ with
    | some o => .ok (some ⟨o, use.2.2⟩)
    | none =>
      if use.2.2.required then .error (.mk use.1.name use.2.1 (.notFound use.1.name ns use.2.1)) else .ok none

/-- The answer of fetching the current children. -/
def currentAnswer (s : MemoryStore) (ns : String) (refs : References) : Except RollError (List Binding) :=
  let results := collect (refs.toList.map (s.fetchAnswer ns))
  if results.1.isEmpty then .ok results.2 else .error (.fetchChildren results.1)

/-- The stored objects of the uses, in reference order, each bound to its use. -/
def bindingsAt (s : MemoryStore) (ns : String) (refs : References) : List Binding :=
  refs.toList.filterMap (fun u => (s.config? ⟨u.1, ns, u.2.1⟩).map (fun o => ⟨o, u.2.2⟩))

/-- Every use can be fetched: no get of it fails, and a required object is stored. -/
def Fetchable (s : MemoryStore) (ns : String) (refs : References) : Prop :=
  ∀ u ∈ refs.toList, s.getFails u.1 u.2.1 = false ∧ (u.2.2.required = true → (s.config? ⟨u.1, ns, u.2.1⟩).isSome)

/-- The stored objects of a kind in a namespace, by name: what a list of that kind answers. -/
def listed (s : MemoryStore) (k : ConfigKind) (ns : String) : List ConfigObject :=
  ((s.configs.filter (fun e => e.1.kind = k ∧ e.1.ns = ns)).mergeSort
    (fun a b => lexLe [a.1.name] [b.1.name])).map Prod.snd

/-- The answer of listing the objects of one kind whose link an owner owns. -/
def ownedAnswer (s : MemoryStore) (ns owner : String) (kind : WorkloadKind) (k : ConfigKind) :
    Except ChildError (List ConfigObject) :=
  if s.failingLists.contains k then .error (.mk k.name ns (injectedFailure k.name))
  else .ok ((s.listed k ns).filter (fun o => o.ownsLink owner kind.name))

/-- The answer of listing the existing children. -/
def existingAnswer (s : MemoryStore) (ns owner : String) (kind : WorkloadKind) :
    Except RollError (List ConfigObject) :=
  let results := splitResults (ConfigKind.all.map (s.ownedAnswer ns owner kind))
  if results.1.isEmpty then .ok results.2.flatten else .error (.listChildren results.1)

/-- The listed objects, of both kinds, whose link an owner owns: ConfigMaps first. -/
def ownedBy (s : MemoryStore) (ns owner : String) (kind : WorkloadKind) : List ConfigObject :=
  ConfigKind.all.flatMap (fun k => (s.listed k ns).filter (fun o => o.ownsLink owner kind.name))

/-- A stored object of a namespace whose link a workload of a name and kind owns. -/
def Owns (s : MemoryStore) (ns owner : String) (kind : WorkloadKind) (o : ConfigObject) : Prop :=
  s.config? o.key = some o ∧ o.key.ns = ns ∧ o.ownsLink owner kind.name = true

end MemoryStore

/-! ## The reads as run over the store -/

section Run

variable (s : MemoryStore)

/-- Over the in-memory store, fetching one use reads the store and changes nothing. -/
theorem fetchChild_run (ns : String) (u : ConfigKind × String × RefSpec) :
    (fetchChild ns u : StateM MemoryStore _).run s = pure (s.fetchAnswer ns u, s) := by
  obtain ⟨k, n, m⟩ := u
  by_cases hf : (k, n) ∈ s.failingGets
  · simp [fetchChild, MemoryStore.fetchAnswer, MemoryStore.getFails, MemoryStore.getConfig, hf]
  · rcases h : Table.lookup ⟨k, ns, n⟩ s.configs with _ | o <;>
      simp [fetchChild, MemoryStore.fetchAnswer, MemoryStore.getFails, MemoryStore.getConfig,
        MemoryStore.config?, hf, h]

/-- Over the in-memory store, gathering the current children reads the store and changes nothing. -/
theorem currentChildren_run (ns : String) (refs : References) :
    (currentChildren ns refs : StateM MemoryStore _).run s = pure (s.currentAnswer ns refs, s) := by
  simp [currentChildren, run_mapM_of_reads _ _ s (fetchChild_run s ns), MemoryStore.currentAnswer]

/-- Over the in-memory store, searching the children of one kind reads the store and changes
nothing. -/
theorem ownedOfKind_run (ns owner : String) (kind : WorkloadKind) (k : ConfigKind) :
    (ownedOfKind ns owner kind k : StateM MemoryStore _).run s = pure (s.ownedAnswer ns owner kind k, s) := by
  by_cases hf : k ∈ s.failingLists <;>
    simp [ownedOfKind, MemoryStore.ownedAnswer, MemoryStore.listConfigs, MemoryStore.listed, hf]

/-- Over the in-memory store, gathering the existing children reads the store and changes nothing.
-/
theorem existingChildren_run (ns owner : String) (kind : WorkloadKind) :
    (existingChildren ns owner kind : StateM MemoryStore _).run s =
      pure (s.existingAnswer ns owner kind, s) := by
  simp [existingChildren, run_mapM_of_reads _ _ s (ownedOfKind_run s ns owner kind),
    MemoryStore.existingAnswer]

/-- The in-memory store refuses no namespace before listing it. -/
@[simp] theorem listsRefused_memory (ns : String) : listsRefused (StateM MemoryStore) ns = none := rfl

/-- The in-memory store refuses no fetch of children before sending it. -/
@[simp] theorem fetchesRefused_memory (ns : String) (refs : References) :
    fetchesRefused (StateM MemoryStore) ns refs = none := by
  unfold fetchesRefused
  rcases h : refs.toList with _ | ⟨u, us⟩
  · rfl
  · simp [List.mapM_cons]

end Run

namespace MemoryStore

variable {s : MemoryStore}

/-! ## The current children -/

/-- A use is fetched without failure exactly when no get of it fails and, if required, its
object is stored; the answer is then the stored object with its use. -/
theorem fetchAnswer_eq_ok_iff (ns : String) (u : ConfigKind × String × RefSpec) (v : Option Binding) :
    s.fetchAnswer ns u = .ok v ↔
      (s.getFails u.1 u.2.1 = false ∧ (u.2.2.required = true → (s.config? ⟨u.1, ns, u.2.1⟩).isSome)) ∧
        v = (s.config? ⟨u.1, ns, u.2.1⟩).map (fun o => ⟨o, u.2.2⟩) := by
  unfold fetchAnswer
  by_cases hf : s.getFails u.1 u.2.1 = true
  · simp [hf]
  · rcases h : s.config? ⟨u.1, ns, u.2.1⟩ with _ | o
    · by_cases hr : u.2.2.required = true
      · simp [hf, hr]
      · simp [hf, hr]
        exact eq_comm
    · simp [hf]
      exact eq_comm

/-- Collecting answers that all succeeded keeps the found bindings, in order. -/
theorem collect_map_of_ok {α : Type} (f : α → Except ChildError (Option Binding)) (g : α → Option Binding)
    (l : List α) (h : ∀ a ∈ l, f a = .ok (g a)) : collect (l.map f) = ([], l.filterMap g) := by
  induction l with
  | nil => rfl
  | cons a rest ih =>
      have hrest := ih (fun b hb => h b (List.mem_cons_of_mem _ hb))
      rw [List.map_cons, h a List.mem_cons_self]
      cases hg : g a <;> simp [collect, hrest, hg]

/-- The current children are found exactly when every use can be fetched, and they are then
the stored objects of the uses, in reference order. -/
theorem currentAnswer_eq_ok_iff (ns : String) (refs : References) (bs : List Binding) :
    s.currentAnswer ns refs = .ok bs ↔ s.Fetchable ns refs ∧ bs = s.bindingsAt ns refs := by
  constructor
  · intro h
    unfold currentAnswer at h
    dsimp only at h
    split at h
    · rename_i hnil
      simp only [List.isEmpty_iff] at hnil
      have hall := (collect_fst_nil_iff _).mp hnil
      have hok : ∀ u ∈ refs.toList, s.fetchAnswer ns u = .ok ((s.config? ⟨u.1, ns, u.2.1⟩).map (fun o => ⟨o, u.2.2⟩)) := by
        intro u hu
        obtain ⟨v, hv⟩ := hall _ (List.mem_map_of_mem hu)
        rw [hv, ((fetchAnswer_eq_ok_iff ns u v).mp hv).2]
      refine ⟨fun u hu => ((fetchAnswer_eq_ok_iff ns u _).mp (hok u hu)).1, ?_⟩
      rw [collect_map_of_ok _ _ _ hok] at h
      exact (Except.ok.inj h).symm
    · exact absurd h (by simp)
  · rintro ⟨hfetch, rfl⟩
    have hok : ∀ u ∈ refs.toList, s.fetchAnswer ns u = .ok ((s.config? ⟨u.1, ns, u.2.1⟩).map (fun o => ⟨o, u.2.2⟩)) :=
      fun u hu => (fetchAnswer_eq_ok_iff ns u _).mpr ⟨hfetch u hu, rfl⟩
    simp [currentAnswer, collect_map_of_ok _ _ _ hok, bindingsAt]

/-- A bound current child is the stored object of one of the uses. -/
theorem mem_bindingsAt {ns : String} {refs : References} {b : Binding} :
    b ∈ s.bindingsAt ns refs ↔
      ∃ u ∈ refs.toList, s.config? ⟨u.1, ns, u.2.1⟩ = some b.object ∧ b.spec = u.2.2 := by
  simp only [bindingsAt, List.mem_filterMap, Option.map_eq_some_iff]
  constructor
  · rintro ⟨u, hu, o, ho, rfl⟩
    exact ⟨u, hu, ho, rfl⟩
  · rintro ⟨u, hu, ho, hspec⟩
    exact ⟨u, hu, b.object, ho, by rw [← hspec]⟩

/-- In a well-formed store the current children sit under distinct keys, those of their uses. -/
theorem WellFormed.nodup_bindingsAt_keys (hwf : s.WellFormed) (ns : String) (w : Workload) :
    ((s.bindingsAt ns w.references).map (fun b => b.object.key)).Nodup := by
  -- the key of a bound child depends only on the kind and name of its use
  have hmap : (s.bindingsAt ns w.references).map (fun b => b.object.key) =
      (w.references.toList.map (fun u => (u.1, u.2.1))).filterMap
        (fun p => (s.config? ⟨p.1, ns, p.2⟩).map ConfigObject.key) := by
    simp only [bindingsAt, List.map_filterMap, List.filterMap_map, Option.map_map]
    rfl
  rw [hmap]
  refine w.references.nodup_uses.filterMap ?_
  intro p p' k hk hk'
  obtain ⟨o, ho, rfl⟩ := Option.map_eq_some_iff.mp hk
  obtain ⟨o', ho', heq⟩ := Option.map_eq_some_iff.mp hk'
  have h₁ := hwf.key_of_config? ho
  have h₂ := hwf.key_of_config? ho'
  rw [h₁, h₂] at heq
  simp only [ConfigKey.mk.injEq] at heq
  exact Prod.ext heq.1.symm heq.2.2.symm

/-! ## The existing children -/

/-- A well-formed store lists an object of a kind and namespace exactly when it stores it. -/
theorem WellFormed.mem_listed_iff (hwf : s.WellFormed) {k : ConfigKind} {ns : String} {o : ConfigObject} :
    o ∈ s.listed k ns ↔ s.config? o.key = some o ∧ o.kind = k ∧ o.key.ns = ns := by
  simp only [listed, List.mem_map, List.mem_mergeSort, List.mem_filter, decide_eq_true_eq]
  constructor
  · rintro ⟨e, ⟨he, hk, hns⟩, rfl⟩
    have hkey : e.2.key = e.1 := hwf.configs.key_eq e he
    refine ⟨(hwf.configs.lookup_eq_some_iff).mpr (by rw [hkey]; exact he), ?_, ?_⟩
    · rw [← hk, ← hkey]; rfl
    · rw [hkey]; exact hns
  · rintro ⟨ho, hk, hns⟩
    exact ⟨(o.key, o), ⟨(hwf.configs.lookup_eq_some_iff).mp ho, hk, hns⟩, rfl⟩

/-- A well-formed store lists each object of a kind and namespace once. -/
theorem WellFormed.nodup_listed_keys (hwf : s.WellFormed) (k : ConfigKind) (ns : String) :
    ((s.listed k ns).map ConfigObject.key).Nodup := by
  let found := s.configs.filter (fun e => e.1.kind = k ∧ e.1.ns = ns)
  have hfound : (found.map Prod.fst).Nodup :=
    hwf.configs.nodup.sublist ((List.filter_sublist).map Prod.fst)
  have hsorted : ((found.mergeSort (fun a b => lexLe [a.1.name] [b.1.name])).map Prod.fst).Nodup :=
    ((List.mergeSort_perm found _).map Prod.fst).nodup_iff.mpr hfound
  have hkey : ∀ e ∈ found.mergeSort (fun a b => lexLe [a.1.name] [b.1.name]), e.2.key = e.1 :=
    fun e he => hwf.configs.key_eq e (List.mem_filter.mp (List.mem_mergeSort.mp he)).1
  have hmap : (s.listed k ns).map ConfigObject.key =
      (found.mergeSort (fun a b => lexLe [a.1.name] [b.1.name])).map Prod.fst := by
    rw [listed, List.map_map]
    exact List.map_congr_left hkey
  rw [hmap]
  exact hsorted

/-- With no list failing, the existing children are the owned objects of both kinds. -/
theorem existingAnswer_of_lists (ns owner : String) (kind : WorkloadKind)
    (h : ∀ k, k ∉ s.failingLists) :
    s.existingAnswer ns owner kind = .ok (s.ownedBy ns owner kind) := by
  simp [existingAnswer, ConfigKind.all, ownedAnswer, h, splitResults, ownedBy]

/-- A failing list of either kind fails the listing of the existing children. -/
theorem existingAnswer_of_fails (ns owner : String) (kind : WorkloadKind) {k : ConfigKind}
    (hk : k ∈ s.failingLists) : ∃ e, s.existingAnswer ns owner kind = .error e := by
  by_cases hc : ConfigKind.configMap ∈ s.failingLists
  · simp [existingAnswer, ConfigKind.all, ownedAnswer, hc, splitResults]
  · cases k
    · exact absurd hk hc
    · simp [existingAnswer, ConfigKind.all, ownedAnswer, hc, hk, splitResults]

/-- The existing children are listed exactly when no list fails. -/
theorem existingAnswer_eq_ok_iff (ns owner : String) (kind : WorkloadKind) (l : List ConfigObject) :
    s.existingAnswer ns owner kind = .ok l ↔
      (∀ k, k ∉ s.failingLists) ∧ l = s.ownedBy ns owner kind := by
  constructor
  · intro h
    have hlists : ∀ k, k ∉ s.failingLists := by
      intro k hk
      obtain ⟨e, he⟩ := existingAnswer_of_fails ns owner kind hk
      rw [he] at h
      cases h
    refine ⟨hlists, ?_⟩
    rw [existingAnswer_of_lists ns owner kind hlists] at h
    exact (Except.ok.inj h).symm
  · rintro ⟨hlists, rfl⟩
    exact existingAnswer_of_lists ns owner kind hlists

/-- The owned objects are exactly the stored objects of the namespace whose link the owner
owns. -/
theorem WellFormed.mem_ownedBy_iff (hwf : s.WellFormed) {ns owner : String} {kind : WorkloadKind}
    {o : ConfigObject} : o ∈ s.ownedBy ns owner kind ↔ s.Owns ns owner kind o := by
  simp only [ownedBy, List.mem_flatMap, List.mem_filter, hwf.mem_listed_iff, Owns]
  constructor
  · rintro ⟨k, -, ⟨ho, -, hns⟩, hown⟩
    exact ⟨ho, hns, hown⟩
  · rintro ⟨ho, hns, hown⟩
    exact ⟨o.kind, by cases o.kind <;> simp [ConfigKind.all], ⟨ho, rfl, hns⟩, hown⟩

/-- The owned objects sit under distinct keys. -/
theorem WellFormed.nodup_ownedBy_keys (hwf : s.WellFormed) (ns owner : String) (kind : WorkloadKind) :
    ((s.ownedBy ns owner kind).map ConfigObject.key).Nodup := by
  have hfilter : ∀ k, (((s.listed k ns).filter (fun o => o.ownsLink owner kind.name)).map ConfigObject.key).Nodup :=
    fun k => (hwf.nodup_listed_keys k ns).sublist ((List.filter_sublist).map _)
  simp only [ownedBy, ConfigKind.all, List.flatMap_cons, List.flatMap_nil, List.append_nil,
    List.map_append]
  rw [List.nodup_append]
  refine ⟨hfilter _, hfilter _, ?_⟩
  -- a ConfigMap and a Secret never share a key
  intro a ha b hb hab
  obtain ⟨o, ho, rfl⟩ := List.mem_map.mp ha
  obtain ⟨o', ho', rfl⟩ := List.mem_map.mp hb
  have hk : o.kind = .configMap := ((hwf.mem_listed_iff).mp (List.mem_filter.mp ho).1).2.1
  have hk' : o'.kind = .secret := ((hwf.mem_listed_iff).mp (List.mem_filter.mp ho').1).2.1
  have := congrArg ConfigKey.kind hab
  simp only [ConfigObject.key] at this
  rw [hk, hk'] at this
  exact absurd this (by decide)

end MemoryStore

end ConfigRollout
