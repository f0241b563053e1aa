import ConfigRollout.Proofs.Children
import ConfigRollout.Reconcile.Links

/-!
# Linking and unlinking over the in-memory store

Both phases of `updateLinks` handle a list of children read from the store, one after the
other, in the same way: a child is skipped (it already has a valid link; it has no link key to
remove), or its edited copy is written back. Over the in-memory store such a write is refused
only by an injected failure, because the child sits under its key at its version until it is
written and no two children share a key. `MemoryStore.editStep` is that one step as a function
of the store, and `run_mapM_editStep` runs a whole list of them: the answers are the children's
own answers, and the store is the fold of the steps.

The children a reconcile links are its current children (`MemoryStore.linkStep`), the ones it
unlinks are the orphans (`MemoryStore.unlinkStep`); `updateLinks_run` puts the two phases
together. What a fold of steps does to each key, to the write counter and to the events is
stated once, for every kind of step (`config?_foldl_editStep_of_mem`,
`configWrites_foldl_editStep`, `events_foldl_editStep`).
-/

set_option autoImplicit false

namespace ConfigRollout

open Reconcile

/-- A quantity that no step changes is the same after a fold of steps. -/
theorem foldl_eq_of_step {α σ β : Type} (step : σ → α → σ) (f : σ → β) (h : ∀ s a, f (step s a) = f s)
    (l : List α) (s : σ) : f (l.foldl step s) = f s := by
  induction l generalizing s with
  | nil => rfl
  | cons a rest ih => rw [List.foldl_cons, ih, h]

/-- With a key erased from the annotations, that annotation is gone and every other is kept: the
map has one entry per key. -/
theorem ObjectMeta.annotation?_erase (m : ObjectMeta) (key k : String) :
    ({ m with annotations := m.annotations.map (fun a => a.erase key) } : ObjectMeta).annotation? k =
      if k = key then none else m.annotation? k := by
  unfold ObjectMeta.annotation?
  cases m.annotations with
  | none => simp
  | some a =>
      by_cases hk : k = key
      · subst hk
        simpa using a.get?_erase_self k
      · simpa [hk] using a.get?_erase_of_ne (Ne.symm hk)

namespace ConfigObject

@[simp] theorem key_setOwnerLink (o : ConfigObject) (owner kind : String) :
    (o.setOwnerLink owner kind).key = o.key := by
  simp [setOwnerLink, key, name, ObjectMeta.nameAny, ObjectMeta.nsOrEmpty]

@[simp] theorem version_setOwnerLink (o : ConfigObject) (owner kind : String) :
    (o.setOwnerLink owner kind).metadata.resourceVersion = o.metadata.resourceVersion := by
  simp [setOwnerLink]

@[simp] theorem key_removeOwnerLink (o : ConfigObject) (owner : String) :
    (o.removeOwnerLink owner).key = o.key := by
  simp [removeOwnerLink, key, name, ObjectMeta.nameAny, ObjectMeta.nsOrEmpty]

@[simp] theorem version_removeOwnerLink (o : ConfigObject) (owner : String) :
    (o.removeOwnerLink owner).metadata.resourceVersion = o.metadata.resourceVersion := by
  simp [removeOwnerLink]

@[simp] theorem name_setOwnerLink (o : ConfigObject) (owner kind : String) :
    (o.setOwnerLink owner kind).name = o.name := by
  simp [setOwnerLink, name, ObjectMeta.nameAny]

@[simp] theorem name_removeOwnerLink (o : ConfigObject) (owner : String) :
    (o.removeOwnerLink owner).name = o.name := by
  simp [removeOwnerLink, name, ObjectMeta.nameAny]

/-- A change of metadata that keeps the uid and the name keeps the identity. -/
theorem identity_setMetadata (o : ConfigObject) (m : ObjectMeta) (hu : m.uid = o.uid) (hn : m.nameAny = o.name) :
    (o.setMetadata m).identity = o.identity := by
  simp [identity, uid, hu, hn]

@[simp] theorem identity_written (o : ConfigObject) : o.written.identity = o.identity :=
  identity_setMetadata o _ rfl rfl

@[simp] theorem identity_setOwnerLink (o : ConfigObject) (owner kind : String) :
    (o.setOwnerLink owner kind).identity = o.identity :=
  identity_setMetadata o _ rfl rfl

@[simp] theorem identity_removeOwnerLink (o : ConfigObject) (owner : String) :
    (o.removeOwnerLink owner).identity = o.identity :=
  identity_setMetadata o _ rfl rfl

@[simp] theorem ownerLink?_written (o : ConfigObject) (owner : String) :
    o.written.ownerLink? owner = o.ownerLink? owner := by
  cases o <;> rfl

@[simp] theorem hasOwnerLink_written (o : ConfigObject) (owner : String) :
    o.written.hasOwnerLink owner = o.hasOwnerLink owner := by
  simp [hasOwnerLink]

@[simp] theorem ownsLink_written (o : ConfigObject) (owner kind : String) :
    o.written.ownsLink owner kind = o.ownsLink owner kind := by
  simp [ownsLink]

/-- Removing the link of an owner leaves no link of it. -/
theorem ownerLink?_removeOwnerLink (o : ConfigObject) (owner : String) :
    (o.removeOwnerLink owner).ownerLink? owner = none := by
  rw [removeOwnerLink, ownerLink?, metadata_setMetadata, ObjectMeta.annotation?_erase, if_pos rfl]

/-- An object whose link of an owner was removed owns no link of that owner, of any kind. -/
theorem ownsLink_removeOwnerLink (o : ConfigObject) (owner kind : String) :
    (o.removeOwnerLink owner).ownsLink owner kind = false := by
  simp [ownsLink, ownerLink?_removeOwnerLink o]

/-- A link the owner owns is a link key of the owner. -/
theorem hasLinkKey_of_ownsLink {o : ConfigObject} {owner kind : String} (h : o.ownsLink owner kind = true) :
    o.hasLinkKey owner = true := by
  unfold ConfigObject.ownsLink at h
  unfold ConfigObject.hasLinkKey
  split at h <;> simp_all

/-- Objects under one key have one kind. -/
theorem kind_eq_of_key_eq {o o' : ConfigObject} (h : o.key = o'.key) : o.kind = o'.kind :=
  congrArg ConfigKey.kind h

/-- Objects under one key have one name. -/
theorem name_eq_of_key_eq {o o' : ConfigObject} (h : o.key = o'.key) : o.name = o'.name :=
  congrArg ConfigKey.name h

end ConfigObject

namespace MemoryStore

/-- Of objects each stored under its own key, the one that has the key of a stored object is
that object. -/
theorem mem_of_key_mem {s : MemoryStore} {l : List ConfigObject} (hl : ∀ c ∈ l, s.config? c.key = some c)
    {o : ConfigObject} (ho : s.config? o.key = some o) (hmem : o.key ∈ l.map ConfigObject.key) : o ∈ l := by
  obtain ⟨c, hc, hck⟩ := List.mem_map.mp hmem
  have hco : c = o := by
    have h := hl c hc
    rw [hck, ho] at h
    exact (Option.some.inj h).symm
  exact hco ▸ hc

/-- No object stored under its own key has a key that holds nothing. -/
theorem key_not_mem_of_none {s : MemoryStore} {l : List ConfigObject} (hl : ∀ c ∈ l, s.config? c.key = some c)
    {k : ConfigKey} (hk : s.config? k = none) : k ∉ l.map ConfigObject.key := by
  intro hmem
  obtain ⟨c, hc, rfl⟩ := List.mem_map.mp hmem
  rw [hl c hc] at hk
  cases hk

/-- An edit of a child that keeps its key and version, as linking and unlinking do. -/
def KeepsKey (edit : ConfigObject → ConfigObject) : Prop :=
  ∀ c, (edit c).key = c.key ∧ (edit c).metadata.resourceVersion = c.metadata.resourceVersion

/-- Setting a link keeps the key of an object. -/
theorem keepsKey_setOwnerLink (owner kind : String) : KeepsKey (·.setOwnerLink owner kind) :=
  fun c => ⟨c.key_setOwnerLink owner kind, c.version_setOwnerLink owner kind⟩

/-- Removing a link keeps the key of an object. -/
theorem keepsKey_removeOwnerLink (owner : String) : KeepsKey (·.removeOwnerLink owner) :=
  fun c => ⟨c.key_removeOwnerLink owner, c.version_removeOwnerLink owner⟩

/-- Whether the store refuses a write depends only on the key of the object written. -/
theorem updateFails_of_key_eq (s : MemoryStore) {o o' : ConfigObject} (h : o.key = o'.key) :
    s.updateFails o = s.updateFails o' := by
  simp [updateFails, ConfigObject.kind_eq_of_key_eq h, ConfigObject.name_eq_of_key_eq h]

/-- Whether the reconciler writes an edited copy of a child: it does not skip the child, and the
child's updates do not fail. -/
def writes (skip : ConfigObject → Bool) (s : MemoryStore) (c : ConfigObject) : Bool :=
  !skip c && !s.updateFails c

/-- The store after the reconciler handles one child read from it: the edited child written
back and an event published, unless the child is skipped or its updates fail. -/
def editStep (skip : ConfigObject → Bool) (edit : ConfigObject → ConfigObject) (reason : String)
    (s : MemoryStore) (c : ConfigObject) : MemoryStore :=
  if s.writes skip c then (s.commitConfig (edit c)).publish c.objectRef reason else s

section Step

variable (skip : ConfigObject → Bool) (edit : ConfigObject → ConfigObject) (reason : String)
  (s : MemoryStore) (c : ConfigObject)

@[simp] theorem failingUpdates_editStep : (s.editStep skip edit reason c).failingUpdates = s.failingUpdates := by
  unfold editStep; split <;> rfl

@[simp] theorem failingGets_editStep : (s.editStep skip edit reason c).failingGets = s.failingGets := by
  unfold editStep; split <;> rfl

@[simp] theorem failingLists_editStep : (s.editStep skip edit reason c).failingLists = s.failingLists := by
  unfold editStep; split <;> rfl

@[simp] theorem failWorkloadUpdates_editStep :
    (s.editStep skip edit reason c).failWorkloadUpdates = s.failWorkloadUpdates := by
  unfold editStep; split <;> rfl

@[simp] theorem workloads_editStep : (s.editStep skip edit reason c).workloads = s.workloads := by
  unfold editStep; split <;> rfl

@[simp] theorem workloadWrites_editStep : (s.editStep skip edit reason c).workloadWrites = s.workloadWrites := by
  unfold editStep; split <;> rfl

@[simp] theorem updateFails_editStep (o : ConfigObject) :
    (s.editStep skip edit reason c).updateFails o = s.updateFails o := by
  simp [updateFails]

@[simp] theorem writes_editStep (o : ConfigObject) :
    (s.editStep skip edit reason c).writes skip o = s.writes skip o := by
  simp [writes]

/-- One step writes the edited copy of its child under the child's key when it writes, and changes
no other key. -/
theorem config?_editStep (hedit : KeepsKey edit) (k : ConfigKey) :
    (s.editStep skip edit reason c).config? k =
      if s.writes skip c ∧ k = c.key then some (edit c).written else s.config? k := by
  unfold editStep
  by_cases hw : s.writes skip c
  · simp [hw, config?_publish, (hedit c).1]
  · simp [hw]

/-- One step keeps the store well formed. -/
theorem WellFormed.editStep {s : MemoryStore} (h : s.WellFormed) :
    (s.editStep skip edit reason c).WellFormed := by
  unfold MemoryStore.editStep
  split
  · exact (h.commitConfig (edit c)).publish _ _
  · exact h

end Step

/-! ## A list of children handled one after the other -/

section Fold

variable (skip : ConfigObject → Bool) (edit : ConfigObject → ConfigObject) (reason : String)

/-- Handling a list of stored children, each under its own key, is the fold of the steps; each
child answers for itself, by what the failure settings say of it. -/
theorem run_mapM_editStep {β : Type} (f : ConfigObject → StateM MemoryStore β) (res : ConfigObject → β)
    (hedit : KeepsKey edit) (fu : List (ConfigKind × String))
    (hf : ∀ (t : MemoryStore) (c : ConfigObject), t.failingUpdates = fu → t.config? c.key = some c →
      (f c).run t = pure (res c, t.editStep skip edit reason c))
    (cs : List ConfigObject) (s : MemoryStore) (hfu : s.failingUpdates = fu)
    (hcs : ∀ c ∈ cs, s.config? c.key = some c) (hkeys : (cs.map ConfigObject.key).Nodup) :
    (cs.mapM f).run s = pure (cs.map res, cs.foldl (editStep skip edit reason) s) := by
  induction cs generalizing s with
  | nil => rfl
  | cons c rest ih =>
      rw [List.map_cons, List.nodup_cons] at hkeys
      -- after the first child is handled, the others still sit under their keys
      have hrest : ∀ c' ∈ rest, (s.editStep skip edit reason c).config? c'.key = some c' := by
        intro c' hc'
        have hne : c'.key ≠ c.key := fun h => hkeys.1 (List.mem_map.mpr ⟨c', hc', h⟩)
        rw [config?_editStep skip edit reason s c hedit]
        simp [hne, hcs c' (List.mem_cons_of_mem _ hc')]
      have ih' := ih (s.editStep skip edit reason c) (by simpa using hfu) hrest hkeys.2
      simp [List.mapM_cons, hf s c hfu (hcs c List.mem_cons_self), ih']

/-- A fold of steps leaves every key that none of its children has. -/
theorem config?_foldl_editStep_of_not_mem (hedit : KeepsKey edit) (cs : List ConfigObject)
    (s : MemoryStore) {k : ConfigKey} (hk : k ∉ cs.map ConfigObject.key) :
    (cs.foldl (editStep skip edit reason) s).config? k = s.config? k := by
  induction cs generalizing s with
  | nil => rfl
  | cons c rest ih =>
      rw [List.map_cons, List.mem_cons, not_or] at hk
      rw [List.foldl_cons, ih _ hk.2, config?_editStep skip edit reason s c hedit]
      simp [hk.1]

/-- A fold of steps over children with distinct keys leaves under a child's key its written copy,
when the first store writes it, and otherwise what was there. -/
theorem config?_foldl_editStep_of_mem (hedit : KeepsKey edit) (cs : List ConfigObject) (s : MemoryStore)
    (hkeys : (cs.map ConfigObject.key).Nodup) {c : ConfigObject} (hc : c ∈ cs) :
    (cs.foldl (editStep skip edit reason) s).config? c.key =
      if s.writes skip c then some (edit c).written else s.config? c.key := by
  induction cs generalizing s with
  | nil => simp at hc
  | cons c' rest ih =>
      rw [List.map_cons, List.nodup_cons] at hkeys
      rw [List.foldl_cons]
      rcases List.mem_cons.mp hc with rfl | hc
      · -- the child is handled first; no later child has its key
        rw [config?_foldl_editStep_of_not_mem skip edit reason hedit rest _ hkeys.1,
          config?_editStep skip edit reason s c hedit]
        simp
      · have hne : c.key ≠ c'.key := fun h => hkeys.1 (List.mem_map.mpr ⟨c, hc, h⟩)
        rw [ih _ hkeys.2 hc, writes_editStep, config?_editStep skip edit reason s c' hedit]
        simp [hne]

/-- A fold of steps counts one write per child it writes. -/
theorem configWrites_foldl_editStep (cs : List ConfigObject) (s : MemoryStore) :
    (cs.foldl (editStep skip edit reason) s).configWrites = s.configWrites + (cs.filter (s.writes skip)).length := by
  induction cs generalizing s with
  | nil => rfl
  | cons c rest ih =>
      rw [List.foldl_cons, ih]
      have hfilter : rest.filter ((s.editStep skip edit reason c).writes skip) = rest.filter (s.writes skip) :=
        List.filter_congr (fun o _ => writes_editStep skip edit reason s c o)
      rw [hfilter]
      by_cases hw : s.writes skip c
      · simp [editStep, hw, commitConfig, publish]
        omega
      · simp [editStep, hw]

/-- A fold of steps publishes one event per child it writes, in order, with the step's reason. -/
theorem events_foldl_editStep (cs : List ConfigObject) (s : MemoryStore) :
    (cs.foldl (editStep skip edit reason) s).events =
      s.events ++ (cs.filter (s.writes skip)).map (fun c => (c.objectRef.kind, c.objectRef.name.getD "", reason)) := by
  induction cs generalizing s with
  | nil => simp
  | cons c rest ih =>
      rw [List.foldl_cons, ih]
      have hfilter : rest.filter ((s.editStep skip edit reason c).writes skip) = rest.filter (s.writes skip) :=
        List.filter_congr (fun o _ => writes_editStep skip edit reason s c o)
      rw [hfilter]
      by_cases hw : s.writes skip c <;> simp [editStep, hw, commitConfig, publish]

@[simp] theorem updateFails_foldl_editStep (cs : List ConfigObject) (s : MemoryStore) (o : ConfigObject) :
    (cs.foldl (editStep skip edit reason) s).updateFails o = s.updateFails o :=
  foldl_eq_of_step _ (·.updateFails o) (fun t c => updateFails_editStep skip edit reason t c o) cs s

@[simp] theorem failingUpdates_foldl_editStep (cs : List ConfigObject) (s : MemoryStore) :
    (cs.foldl (editStep skip edit reason) s).failingUpdates = s.failingUpdates :=
  foldl_eq_of_step _ MemoryStore.failingUpdates (fun t c => failingUpdates_editStep skip edit reason t c) cs s

@[simp] theorem failingGets_foldl_editStep (cs : List ConfigObject) (s : MemoryStore) :
    (cs.foldl (editStep skip edit reason) s).failingGets = s.failingGets :=
  foldl_eq_of_step _ MemoryStore.failingGets (fun t c => failingGets_editStep skip edit reason t c) cs s

@[simp] theorem failingLists_foldl_editStep (cs : List ConfigObject) (s : MemoryStore) :
    (cs.foldl (editStep skip edit reason) s).failingLists = s.failingLists :=
  foldl_eq_of_step _ MemoryStore.failingLists (fun t c => failingLists_editStep skip edit reason t c) cs s

/-- A fold that skips every object leaves the store as it was. -/
theorem foldl_editStep_of_skip (cs : List ConfigObject) (s : MemoryStore) (h : ∀ c ∈ cs, skip c = true) :
    cs.foldl (editStep skip edit reason) s = s := by
  induction cs with
  | nil => rfl
  | cons c rest ih =>
      have hskip : s.editStep skip edit reason c = s := by
        simp [editStep, writes, h c List.mem_cons_self]
      rw [List.foldl_cons, hskip, ih (fun c' hc' => h c' (List.mem_cons_of_mem _ hc'))]

@[simp] theorem failWorkloadUpdates_foldl_editStep (cs : List ConfigObject) (s : MemoryStore) :
    (cs.foldl (editStep skip edit reason) s).failWorkloadUpdates = s.failWorkloadUpdates :=
  foldl_eq_of_step _ MemoryStore.failWorkloadUpdates (fun t c => failWorkloadUpdates_editStep skip edit reason t c) cs s

@[simp] theorem workloads_foldl_editStep (cs : List ConfigObject) (s : MemoryStore) :
    (cs.foldl (editStep skip edit reason) s).workloads = s.workloads :=
  foldl_eq_of_step _ MemoryStore.workloads (fun t c => workloads_editStep skip edit reason t c) cs s

/-- A fold of steps keeps the store well formed. -/
theorem WellFormed.foldl_editStep {s : MemoryStore} (h : s.WellFormed) (cs : List ConfigObject) :
    (cs.foldl (MemoryStore.editStep skip edit reason) s).WellFormed := by
  induction cs generalizing s with
  | nil => exact h
  | cons c rest ih => exact ih (h.editStep skip edit reason c)

end Fold

/-! ## The two phases -/

/-- The step that links a current child: skipped when it has a valid link. -/
def linkStep (owner : String) (kind : WorkloadKind) : MemoryStore → ConfigObject → MemoryStore :=
  editStep (·.hasOwnerLink owner) (·.setOwnerLink owner kind.name) addWatchReason

/-- The step that unlinks an orphan: skipped when it has no link key of the owner. -/
def unlinkStep (owner : String) : MemoryStore → ConfigObject → MemoryStore :=
  editStep (!·.hasLinkKey owner) (·.removeOwnerLink owner) removeWatchReason

/-- Whether linking a current child fails: it needs a link and its updates fail. -/
def linkFails (s : MemoryStore) (owner : String) (c : ConfigObject) : Bool :=
  !c.hasOwnerLink owner && s.updateFails c

/-- Whether unlinking an orphan fails: it has the link key and its updates fail. -/
def unlinkFails (s : MemoryStore) (owner : String) (c : ConfigObject) : Bool :=
  c.hasLinkKey owner && s.updateFails c

/-- The failure of a child whose write was refused by an injected failure. -/
def injectedChildError (c : ConfigObject) : ChildError :=
  .mk c.kind.name c.name (injectedFailure c.name)

/-- Two stores that refuse the same updates refuse the same link writes. -/
theorem linkFails_of_failingUpdates {s t : MemoryStore} (h : t.failingUpdates = s.failingUpdates)
    (owner : String) : t.linkFails owner = s.linkFails owner := by
  funext c
  simp [linkFails, updateFails, h]

/-- Two stores that refuse the same updates refuse the same unlink writes. -/
theorem unlinkFails_of_failingUpdates {s t : MemoryStore} (h : t.failingUpdates = s.failingUpdates)
    (owner : String) : t.unlinkFails owner = s.unlinkFails owner := by
  funext c
  simp [unlinkFails, updateFails, h]

/-- The answers that fail, in order, as failures: those that the test picks. -/
theorem filterMap_ite_some {α β : Type} (p : α → Bool) (g : α → β) (l : List α) :
    l.filterMap (fun a => if p a then some (g a) else none) = (l.filter p).map g := by
  rw [← List.filterMap_eq_map', List.filterMap_filter]

/-- Over the in-memory store, linking a stored child is one link step, refused exactly by an
injected failure. -/
theorem addLink_run (owner : String) (kind : WorkloadKind) (s : MemoryStore) (c : ConfigObject)
    (hc : s.config? c.key = some c) :
    (addLink owner kind c : StateM MemoryStore _).run s =
      pure (if s.linkFails owner c then .error (injectedChildError c) else .ok (), linkStep owner kind s c) := by
  have hstored : s.config? (c.setOwnerLink owner kind.name).key = some c := by simpa using hc
  have hfails : s.updateFails (c.setOwnerLink owner kind.name) = s.updateFails c :=
    s.updateFails_of_key_eq (c.key_setOwnerLink owner kind.name)
  by_cases hl : c.hasOwnerLink owner = true
  · simp [addLink, hl, linkFails, linkStep, editStep, writes]
  · by_cases hf : s.updateFails c = true
    · simp [addLink, hl, hf, linkFails, linkStep, editStep, writes,
        s.updateConfig_of_stored hstored (c.version_setOwnerLink owner kind.name).symm, hfails,
        injectedChildError]
    · simp [addLink, hl, hf, linkFails, linkStep, editStep, writes,
        s.updateConfig_of_stored hstored (c.version_setOwnerLink owner kind.name).symm, hfails]

/-- Over the in-memory store, unlinking a stored child is one unlink step, refused exactly by an
injected failure. -/
theorem removeLink_run (owner : String) (s : MemoryStore) (c : ConfigObject) (hc : s.config? c.key = some c) :
    (removeLink owner c : StateM MemoryStore _).run s =
      pure (if s.unlinkFails owner c then some (injectedChildError c) else none, unlinkStep owner s c) := by
  have hstored : s.config? (c.removeOwnerLink owner).key = some c := by simpa using hc
  have hfails : s.updateFails (c.removeOwnerLink owner) = s.updateFails c :=
    s.updateFails_of_key_eq (c.key_removeOwnerLink owner)
  by_cases hl : c.hasLinkKey owner = true
  · by_cases hf : s.updateFails c = true
    · simp [removeLink, hl, hf, unlinkFails, unlinkStep, editStep, writes,
        s.updateConfig_of_stored hstored (c.version_removeOwnerLink owner).symm, hfails,
        injectedChildError]
    · simp [removeLink, hl, hf, unlinkFails, unlinkStep, editStep, writes,
        s.updateConfig_of_stored hstored (c.version_removeOwnerLink owner).symm, hfails]
  · simp [removeLink, hl, unlinkFails, unlinkStep, editStep, writes]

/-- Unlinking a list of stored children, each under its own key: the failures of those whose
update was refused, in order, and the fold of the unlinking steps. -/
theorem removeLinks_run (owner : String) (s : MemoryStore) (cs : List ConfigObject)
    (hcs : ∀ c ∈ cs, s.config? c.key = some c) (hkeys : (cs.map ConfigObject.key).Nodup) :
    (removeLinks owner cs : StateM MemoryStore _).run s =
      pure (if cs.any (s.unlinkFails owner) then
              .error (.removeReferences ((cs.filter (s.unlinkFails owner)).map injectedChildError))
            else .ok (),
        cs.foldl (unlinkStep owner) s) := by
  have hrun := run_mapM_editStep (!·.hasLinkKey owner) (·.removeOwnerLink owner) removeWatchReason
    (removeLink owner) (fun c => if s.unlinkFails owner c then some (injectedChildError c) else none)
    (keepsKey_removeOwnerLink owner) s.failingUpdates
    (fun t c ht hc => by rw [removeLink_run owner t c hc, unlinkFails_of_failingUpdates ht]; rfl)
    cs s rfl hcs hkeys
  have herrors : (cs.map (fun c => if s.unlinkFails owner c then some (injectedChildError c) else none)).filterMap id =
      (cs.filter (s.unlinkFails owner)).map injectedChildError := by
    rw [List.filterMap_map]
    exact filterMap_ite_some _ _ _
  have hempty : ((cs.filter (s.unlinkFails owner)).map injectedChildError).isEmpty =
      !cs.any (s.unlinkFails owner) := by
    cases h : cs.any (s.unlinkFails owner) <;> simp_all [List.filter_eq_nil_iff]
  simp only [removeLinks, StateT.run_bind, hrun, pure_bind, herrors, hempty, unlinkStep]
  cases cs.any (s.unlinkFails owner) <;> rfl

/-- Linking a list of stored children, each under its own key: the failures of those that
needed a link and whose update was refused, in order, and the fold of the linking steps. -/
theorem addLinks_run (owner : String) (kind : WorkloadKind) (s : MemoryStore) (cs : List ConfigObject)
    (hcs : ∀ c ∈ cs, s.config? c.key = some c) (hkeys : (cs.map ConfigObject.key).Nodup) :
    (cs.mapM (addLink owner kind) : StateM MemoryStore _).run s =
      pure (cs.map (fun c => if s.linkFails owner c then .error (injectedChildError c) else .ok ()),
        cs.foldl (linkStep owner kind) s) :=
  run_mapM_editStep (·.hasOwnerLink owner) (·.setOwnerLink owner kind.name) addWatchReason
    (addLink owner kind) (fun c => if s.linkFails owner c then .error (injectedChildError c) else .ok ())
    (keepsKey_setOwnerLink owner kind.name) s.failingUpdates
    (fun t c ht hc => by rw [addLink_run owner kind t c hc, linkFails_of_failingUpdates ht]; rfl)
    cs s rfl hcs hkeys

/-- The failures of a fan-out of answers, in order: those that the test picks. -/
theorem splitResults_map_ite (p : ConfigObject → Bool) (cs : List ConfigObject) :
    (splitResults (cs.map (fun c => if p c then .error (injectedChildError c) else .ok ()))).1 =
      (cs.filter p).map injectedChildError := by
  induction cs with
  | nil => rfl
  | cons c rest ih => by_cases hp : p c <;> simp [splitResults, hp, ih]

/-- An orphan is no current child: listed from the store, it sits under a key that no current
child has, so linking leaves it where it was. -/
theorem orphan_key_not_mem {s : MemoryStore} {existing : List ConfigObject} {current : List Binding}
    (hex : ∀ e ∈ existing, s.config? e.key = some e) (hcur : ∀ b ∈ current, s.config? b.object.key = some b.object)
    {e : ConfigObject} (he : e ∈ orphans existing current) :
    e.key ∉ (current.map (·.object)).map ConfigObject.key := by
  obtain ⟨hmem, hid⟩ := (mem_orphans e existing current).mp he
  intro hk
  simp only [List.map_map, List.mem_map, Function.comp_apply] at hk
  obtain ⟨b, hb, hbk⟩ := hk
  -- the same key holds one object, so the orphan would be that current child
  have hsame : b.object = e := by
    have h₁ := hcur b hb
    rw [hbk, hex e hmem] at h₁
    exact (Option.some.inj h₁).symm
  exact hid b hb (by rw [hsame])

/-- Linking the current children and then unlinking the orphans, over a store that holds each
child under its own key: a refused link stops before any orphan is touched; otherwise every
orphan is handled, and the refused ones are reported together. -/
theorem updateLinks_run (owner : String) (kind : WorkloadKind) (s : MemoryStore)
    (existing : List ConfigObject) (current : List Binding)
    (hex : ∀ e ∈ existing, s.config? e.key = some e) (hexk : (existing.map ConfigObject.key).Nodup)
    (hcur : ∀ b ∈ current, s.config? b.object.key = some b.object)
    (hcurk : (current.map (·.object.key)).Nodup) :
    (updateLinks owner kind existing current : StateM MemoryStore _).run s =
      let cs := current.map (·.object)
      let linked := cs.foldl (linkStep owner kind) s
      let os := orphans existing current
      if cs.any (s.linkFails owner) then
        pure (.error (.updateChildren ((cs.filter (s.linkFails owner)).map injectedChildError)), linked)
      else
        pure (if os.any (s.unlinkFails owner) then
                .error (.removeReferences ((os.filter (s.unlinkFails owner)).map injectedChildError))
              else .ok (),
          os.foldl (unlinkStep owner) linked) := by
  have hcs : ∀ c ∈ current.map (·.object), s.config? c.key = some c := by
    intro c hc
    obtain ⟨b, hb, rfl⟩ := List.mem_map.mp hc
    exact hcur b hb
  have hkeys : ((current.map (·.object)).map ConfigObject.key).Nodup := by
    rwa [List.map_map]
  have hadd : (current.mapM (fun b => addLink owner kind b.object) : StateM MemoryStore _).run s =
      pure ((current.map (·.object)).map
          (fun c => if s.linkFails owner c then .error (injectedChildError c) else .ok ()),
        (current.map (·.object)).foldl (linkStep owner kind) s) := by
    rw [show (fun b : Binding => (addLink owner kind b.object : StateM MemoryStore _)) =
      addLink owner kind ∘ (·.object) from rfl, ← List.mapM_map]
    exact addLinks_run owner kind s _ hcs hkeys
  -- after linking, each orphan still sits under its key, and the orphans' keys are distinct
  have hos : ∀ e ∈ orphans existing current,
      ((current.map (·.object)).foldl (linkStep owner kind) s).config? e.key = some e := by
    intro e he
    rw [linkStep, config?_foldl_editStep_of_not_mem _ _ _ (keepsKey_setOwnerLink owner kind.name) _ _
      (orphan_key_not_mem hex hcur he)]
    exact hex e ((mem_orphans e existing current).mp he).1
  have hosk : ((orphans existing current).map ConfigObject.key).Nodup :=
    hexk.sublist ((List.filter_sublist).map _)
  have hfu : ((current.map (·.object)).foldl (linkStep owner kind) s).failingUpdates = s.failingUpdates :=
    foldl_eq_of_step _ MemoryStore.failingUpdates (fun t c => failingUpdates_editStep _ _ _ t c) _ _
  have hremove := removeLinks_run owner _ _ hos hosk
  rw [unlinkFails_of_failingUpdates hfu] at hremove
  have hempty : (((current.map (·.object)).filter (s.linkFails owner)).map injectedChildError).isEmpty =
      !(current.map (·.object)).any (s.linkFails owner) := by
    cases h : (current.map (·.object)).any (s.linkFails owner) <;> simp_all [List.filter_eq_nil_iff]
  simp only [updateLinks, StateT.run_bind, hadd, pure_bind, splitResults_map_ite, hempty, Bool.not_not]
  cases (current.map (·.object)).any (s.linkFails owner)
  · exact hremove
  · rfl

end MemoryStore

end ConfigRollout
