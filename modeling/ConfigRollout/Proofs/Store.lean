import ConfigRollout.Store.Memory
import ConfigRollout.Proofs.KeyOrder

/-!
# The in-memory store: well-formed states and one equation per operation

The in-memory store keeps its objects in tables keyed by kind, namespace and name, and it
writes an object only under the key of the object written. So in every state it reaches, each
object sits under its own key and each key holds one object. The Lean record has more values
than that; `MemoryStore.WellFormed` says which of them stand for a store, and each operation
keeps it: the empty store, the writes of someone else, the failures switched on, and the
reconciler's own updates.

The rest of the file states each operation as one equation. Reads change nothing. A write of
an object read from the store at its version either fails by an injected failure, leaving the
store as it was, or is accepted: the object is stored under its key with its version moved on
(`ConfigObject.written`), and the write is counted (`updateConfig_of_stored`).

The tables are plain lists of entries, and `Table.Keyed` is the invariant of one table; its
lemmas (`Table.Keyed.lookup_eq_some_iff`, `Table.Keyed.upsert`) are what every later proof
uses to read a key.
-/

set_option autoImplicit false

namespace ConfigRollout

namespace Table

variable {κ α : Type} [DecidableEq κ]

/-- A table in which every entry sits under the key of its value, and each key once. -/
structure Keyed (key : α → κ) (t : List (κ × α)) : Prop where
  /-- Every entry's value has the entry's key. -/
  key_eq : ∀ e ∈ t, key e.2 = e.1
  /-- No key has two entries. -/
  nodup : (t.map Prod.fst).Nodup

/-- Looking a key up in a table finds the first entry under it. -/
theorem lookup_cons (k k' : κ) (v : α) (t : List (κ × α)) :
    lookup k ((k', v) :: t) = if k = k' then some v else lookup k t := rfl

/-- A key that is found has an entry. -/
theorem mem_of_lookup_eq_some {k : κ} {v : α} {t : List (κ × α)} (h : lookup k t = some v) :
    (k, v) ∈ t := by
  induction t with
  | nil => simp [lookup] at h
  | cons e rest ih =>
      obtain ⟨k', v'⟩ := e
      rw [lookup_cons] at h
      by_cases hk : k = k'
      · subst hk
        simp only [if_true, Option.some.injEq] at h
        subst h
        exact List.mem_cons_self
      · simp only [hk, if_false] at h
        exact List.mem_cons_of_mem _ (ih h)

/-- With each key once, the entry of a key is what looking it up finds. -/
theorem lookup_eq_some_of_mem {k : κ} {v : α} {t : List (κ × α)} (hnd : (t.map Prod.fst).Nodup)
    (h : (k, v) ∈ t) : lookup k t = some v := by
  induction t with
  | nil => simp at h
  | cons e rest ih =>
      obtain ⟨k', v'⟩ := e
      rw [List.map_cons, List.nodup_cons] at hnd
      rw [lookup_cons]
      rcases List.mem_cons.mp h with he | he
      · simp only [Prod.mk.injEq] at he
        simp [he.1, he.2]
      · have hne : k ≠ k' := fun hk => hnd.1 (List.mem_map.mpr ⟨(k, v), he, hk⟩)
        simp only [hne, if_false]
        exact ih hnd.2 he

/-- An entry of a table after `upsert` is the new one or an old one. -/
theorem mem_upsert {k : κ} {v : α} {t : List (κ × α)} {e : κ × α} (h : e ∈ upsert k v t) :
    e = (k, v) ∨ e ∈ t := by
  induction t with
  | nil => simpa [upsert] using h
  | cons e' rest ih =>
      obtain ⟨k', v'⟩ := e'
      simp only [upsert] at h
      split at h
      · rcases List.mem_cons.mp h with h | h
        · exact .inl h
        · exact .inr (List.mem_cons_of_mem _ h)
      · rcases List.mem_cons.mp h with h | h
        · exact .inr (h ▸ List.mem_cons_self)
        · rcases ih h with h | h
          · exact .inl h
          · exact .inr (List.mem_cons_of_mem _ h)

/-- `upsert` keeps the keys of a table, adding the new key at the end when it is new. -/
theorem map_fst_upsert (k : κ) (v : α) (t : List (κ × α)) :
    (upsert k v t).map Prod.fst = if k ∈ t.map Prod.fst then t.map Prod.fst else t.map Prod.fst ++ [k] := by
  induction t with
  | nil => simp [upsert]
  | cons e rest ih =>
      obtain ⟨k', v'⟩ := e
      by_cases hk : k = k'
      · subst hk
        simp [upsert]
      · have hk' : k' ≠ k := Ne.symm hk
        by_cases hm : k ∈ rest.map Prod.fst <;> simp [upsert, hk, ih, hm]

/-- Writing a value under its own key keeps a table keyed. -/
theorem Keyed.upsert {key : α → κ} {t : List (κ × α)} {k : κ} {v : α} (h : Keyed key t)
    (hk : key v = k) : Keyed key (Table.upsert k v t) where
  key_eq e he := by
    rcases mem_upsert he with rfl | he
    · exact hk
    · exact h.key_eq e he
  nodup := by
    rw [map_fst_upsert]
    split
    · exact h.nodup
    · rename_i hm
      rw [List.nodup_append]
      refine ⟨h.nodup, by simp, ?_⟩
      intro a ha b hb
      rw [List.mem_singleton] at hb
      subst hb
      exact fun e => hm (e ▸ ha)

/-- In a keyed table, a key finds exactly its entry. -/
theorem Keyed.lookup_eq_some_iff {key : α → κ} {t : List (κ × α)} (h : Keyed key t) {k : κ} {v : α} :
    lookup k t = some v ↔ (k, v) ∈ t :=
  ⟨mem_of_lookup_eq_some, lookup_eq_some_of_mem h.nodup⟩

/-- In a keyed table, what a key finds has that key. -/
theorem Keyed.key_of_lookup {key : α → κ} {t : List (κ × α)} (h : Keyed key t) {k : κ} {v : α}
    (hl : lookup k t = some v) : key v = k :=
  h.key_eq (k, v) (mem_of_lookup_eq_some hl)

end Table

/-- The stored object after a write: the object written, with the version after its own. -/
def ConfigObject.written (o : ConfigObject) : ConfigObject :=
  o.setMetadata { o.metadata with resourceVersion := some (nextVersion o.metadata.resourceVersion) }

/-- The stored workload after a write: the workload written, with the version after its own. -/
def Workload.written (w : Workload) : Workload :=
  { w with metadata := { w.metadata with resourceVersion := some (nextVersion w.metadata.resourceVersion) } }

namespace ConfigObject

@[simp] theorem key_setMetadata (o : ConfigObject) (m : ObjectMeta) :
    (o.setMetadata m).key = ⟨o.kind, m.nsOrEmpty, m.nameAny⟩ := by
  cases o <;> rfl

@[simp] theorem name_setMetadata (o : ConfigObject) (m : ObjectMeta) :
    (o.setMetadata m).name = m.nameAny := by
  cases o <;> rfl

@[simp] theorem key_written (o : ConfigObject) : o.written.key = o.key := by
  simp [written, key, name, ObjectMeta.nameAny, ObjectMeta.nsOrEmpty]

@[simp] theorem kind_written (o : ConfigObject) : o.written.kind = o.kind := by
  simp [written]

@[simp] theorem name_written (o : ConfigObject) : o.written.name = o.name := by
  simp [written, name, ObjectMeta.nameAny]

end ConfigObject

@[simp] theorem Workload.key_written (w : Workload) : w.written.key = w.key := rfl

namespace MemoryStore

/-- The states of the store that stand for a store: every object sits under its own key, and
each key holds one object. (Every map an object carries is in key order by its type.) -/
structure WellFormed (s : MemoryStore) : Prop where
  /-- The config objects are keyed. -/
  configs : Table.Keyed ConfigObject.key s.configs
  /-- The workloads are keyed. -/
  workloads : Table.Keyed Workload.key s.workloads

/-- The config object stored under a key. -/
def config? (s : MemoryStore) (k : ConfigKey) : Option ConfigObject :=
  Table.lookup k s.configs

/-- The store after a write of a config object by the reconciler was accepted. -/
def commitConfig (s : MemoryStore) (o : ConfigObject) : MemoryStore :=
  { s with configs := Table.upsert o.key o.written s.configs, configWrites := s.configWrites + 1 }

/-- The store after a write of a workload by the reconciler was accepted. -/
def commitWorkload (s : MemoryStore) (w : Workload) : MemoryStore :=
  { s with workloads := Table.upsert w.key w.written s.workloads, workloadWrites := s.workloadWrites + 1 }

/-- Whether the updates of a config object fail. -/
def updateFails (s : MemoryStore) (o : ConfigObject) : Bool :=
  s.failingUpdates.contains (o.kind, o.name)

/-- A stored config object has the key it is stored under. -/
theorem WellFormed.key_of_config? {s : MemoryStore} (h : s.WellFormed) {k : ConfigKey} {o : ConfigObject}
    (ho : s.config? k = some o) : o.key = k :=
  h.configs.key_of_lookup ho

/-- A stored object has the kind, namespace and name of the key it is stored under. -/
theorem WellFormed.kind_ns_name_of_config? {s : MemoryStore} (h : s.WellFormed) {k : ConfigKind}
    {ns name : String} {o : ConfigObject} (ho : s.config? ⟨k, ns, name⟩ = some o) :
    o.kind = k ∧ o.metadata.nsOrEmpty = ns ∧ o.name = name := by
  simpa [ConfigObject.key] using h.key_of_config? ho

/-- A stored workload has the key it is stored under. -/
theorem WellFormed.key_of_workload? {s : MemoryStore} (h : s.WellFormed) {kind : WorkloadKind}
    {ns name : String} {w : Workload} (hw : s.workload? kind ns name = some w) : w.key = ⟨kind, ns, name⟩ :=
  h.workloads.key_of_lookup hw

/-- An accepted write stores the written object under its key and changes no other key. -/
@[simp] theorem config?_commitConfig (s : MemoryStore) (o : ConfigObject) (k : ConfigKey) :
    (s.commitConfig o).config? k = if k = o.key then some o.written else s.config? k :=
  Table.lookup_upsert _ _ _ _

/-- An accepted workload write stores the written workload under its key and changes no other key.
-/
@[simp] theorem workload?_commitWorkload (s : MemoryStore) (w : Workload) (kind : WorkloadKind) (ns name : String) :
    (s.commitWorkload w).workload? kind ns name =
      if (⟨kind, ns, name⟩ : WorkloadKey) = w.key then some w.written else s.workload? kind ns name :=
  Table.lookup_upsert _ _ _ _

/-- Publishing an event changes no config object. -/
theorem config?_publish (s : MemoryStore) (ref : ObjectRef) (reason : String) (k : ConfigKey) :
    (s.publish ref reason).config? k = s.config? k := rfl

/-! ## Each operation keeps a store well formed -/

/-- The empty store is well formed. -/
theorem wellFormed_empty : ({} : MemoryStore).WellFormed :=
  ⟨⟨by simp, by simp⟩, ⟨by simp, by simp⟩⟩

/-- Someone else's write of an object keeps a store well formed. -/
theorem WellFormed.putConfig {s : MemoryStore} (h : s.WellFormed) (o : ConfigObject) :
    (s.putConfig o).WellFormed :=
  ⟨h.configs.upsert (by simp [ConfigObject.key, ConfigObject.name, ObjectMeta.nameAny, ObjectMeta.nsOrEmpty]),
    h.workloads⟩

/-- Someone else's write of a workload keeps a store well formed. -/
theorem WellFormed.putWorkload {s : MemoryStore} (h : s.WellFormed) (w : Workload) :
    (s.putWorkload w).WellFormed := by
  refine ⟨h.configs, h.workloads.upsert ?_⟩
  split <;> simp [Workload.key, ObjectMeta.nameAny, ObjectMeta.nsOrEmpty]

/-- An accepted write of a config object keeps a store well formed. -/
theorem WellFormed.commitConfig {s : MemoryStore} (h : s.WellFormed) (o : ConfigObject) :
    (s.commitConfig o).WellFormed :=
  ⟨h.configs.upsert (ConfigObject.key_written o), h.workloads⟩

/-- An accepted write of a workload keeps a store well formed. -/
theorem WellFormed.commitWorkload {s : MemoryStore} (h : s.WellFormed) (w : Workload) :
    (s.commitWorkload w).WellFormed :=
  ⟨h.configs, h.workloads.upsert (Workload.key_written w)⟩

/-- Publishing an event keeps a store well formed. -/
theorem WellFormed.publish {s : MemoryStore} (h : s.WellFormed) (ref : ObjectRef) (reason : String) :
    (s.publish ref reason).WellFormed :=
  ⟨h.configs, h.workloads⟩

/-! ## Writes of an object read at its version -/

/-- A write of a config object whose key holds it at its version: refused by an injected
failure, else stored with the next version. -/
theorem updateConfig_of_stored (s : MemoryStore) {o stored : ConfigObject} (h : s.config? o.key = some stored)
    (hv : stored.metadata.resourceVersion = o.metadata.resourceVersion) :
    s.updateConfig o =
      if s.updateFails o then (.error (injectedFailure o.name), s) else (.ok o.written, s.commitConfig o) := by
  have hl : Table.lookup o.key s.configs = some stored := h
  simp [updateConfig, updateFails, hl, hv, ConfigObject.written, commitConfig]

/-- A write of a workload whose key holds it at its version: refused when workload updates
fail, else stored with the next version. -/
theorem updateWorkload_of_stored (s : MemoryStore) {w stored : Workload}
    (h : Table.lookup w.key s.workloads = some stored)
    (hv : stored.metadata.resourceVersion = w.metadata.resourceVersion) :
    s.updateWorkload w =
      if s.failWorkloadUpdates then (.error (injectedFailure w.key.name), s)
      else (.ok w.written, s.commitWorkload w) := by
  simp [updateWorkload, h, hv, Workload.written, commitWorkload]

/-- A write either changes nothing or is accepted as a commit of the object written. -/
theorem updateConfig_cases (s : MemoryStore) (o : ConfigObject) :
    (∃ e, s.updateConfig o = (.error e, s)) ∨ s.updateConfig o = (.ok o.written, s.commitConfig o) := by
  unfold updateConfig
  dsimp only
  split
  · exact .inl ⟨_, rfl⟩
  · split
    · exact .inl ⟨_, rfl⟩
    · split
      · exact .inl ⟨_, rfl⟩
      · rename_i hv
        right
        simp only [ne_eq, Decidable.not_not] at hv
        simp [hv, ConfigObject.written, commitConfig]

/-- A workload write either changes nothing or is accepted as a commit of the workload. -/
theorem updateWorkload_cases (s : MemoryStore) (w : Workload) :
    (∃ e, s.updateWorkload w = (.error e, s)) ∨ s.updateWorkload w = (.ok w.written, s.commitWorkload w) := by
  unfold updateWorkload
  dsimp only
  split
  · exact .inl ⟨_, rfl⟩
  · split
    · exact .inl ⟨_, rfl⟩
    · split
      · exact .inl ⟨_, rfl⟩
      · rename_i hv
        right
        simp only [ne_eq, Decidable.not_not] at hv
        simp [hv, Workload.written, commitWorkload]

/-- A write of a config object by the reconciler, accepted or refused, keeps a store well formed. -/
theorem WellFormed.updateConfig {s : MemoryStore} (h : s.WellFormed) (o : ConfigObject) :
    (s.updateConfig o).2.WellFormed := by
  rcases updateConfig_cases s o with ⟨e, he⟩ | he <;> rw [he]
  · exact h
  · exact h.commitConfig o

/-- A write of a workload by the reconciler, accepted or refused, keeps a store well formed. -/
theorem WellFormed.updateWorkload {s : MemoryStore} (h : s.WellFormed) (w : Workload) :
    (s.updateWorkload w).2.WellFormed := by
  rcases updateWorkload_cases s w with ⟨e, he⟩ | he <;> rw [he]
  · exact h
  · exact h.commitWorkload w

end MemoryStore

/-! ## The store operations as run in the state monad -/

section Run

variable (s : MemoryStore)

@[simp] theorem run_getWorkload (kind : WorkloadKind) (ns name : String) :
    (ObjectStore.getWorkload kind ns name : StateM MemoryStore _).run s = pure (.ok (s.workload? kind ns name), s) := rfl

@[simp] theorem run_updateWorkload (w : Workload) :
    (ObjectStore.updateWorkload w : StateM MemoryStore _).run s = pure (s.updateWorkload w) := rfl

@[simp] theorem run_getConfig (kind : ConfigKind) (ns name : String) :
    (ObjectStore.getConfig kind ns name : StateM MemoryStore _).run s = pure (s.getConfig kind ns name, s) := rfl

@[simp] theorem run_listConfigs (kind : ConfigKind) (ns : String) :
    (ObjectStore.listConfigs kind ns : StateM MemoryStore _).run s = pure (s.listConfigs kind ns, s) := rfl

@[simp] theorem run_updateConfig (o : ConfigObject) :
    (ObjectStore.updateConfig o : StateM MemoryStore _).run s = pure (s.updateConfig o) := rfl

@[simp] theorem run_publish (ref : ObjectRef) (reason note : String) :
    (EventSink.publish ref reason note : StateM MemoryStore _).run s = pure ((), s.publish ref reason) := rfl

/-- The in-memory store refuses no read before sending it: its failures come with the answer. -/
@[simp] theorem refusesGet_memory (kind : ConfigKind) (ns name : String) :
    ObjectStore.refusesGet (StateM MemoryStore) kind ns name = none := rfl

/-- The in-memory store refuses no list before sending it: its failures come with the answer. -/
@[simp] theorem refusesList_memory (kind : ConfigKind) (ns : String) :
    ObjectStore.refusesList (StateM MemoryStore) kind ns = none := rfl

end Run

end ConfigRollout
