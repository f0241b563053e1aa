import ConfigRollout.Proofs.ActiveReconcile
import ConfigRollout.Proofs.DeletingReconcile

/-!
# What every run of a reconcile leaves

`ActiveReconcile` and `DeletingReconcile` say what a successful run leaves. A run can also stop
half-way, and the writes it made before stopping stay: after a refused link the children linked
before it stay linked, after a refused unlink the orphans unlinked before it stay unlinked, and
after a refused workload write every link is in place. This file follows every outcome.

* A run whose reads fail stops before its first write, with the store exactly as it was
  (`handleWorkload_failed_read_unchanged`).
* Every other run ends in one of three states: the current children linked
  (`MemoryStore.linkedFor`), then the orphans unlinked as well (`MemoryStore.unlinkedFor`), then
  the workload written; a deleting run strips every owned object (`MemoryStore.strippedFor`).
  So whatever the outcome, each key holds what it held or what a successful run leaves there
  (`MemoryStore.Progress`, `progress_handleActive`, `progress_handleDeleting`).
* Hence a config write never does more than set the workload's link to its kind, on an object
  of its namespace without a valid link, or remove it from an object whose link the workload
  owns (`handleWorkload_writes_only_links`): `ConfigObject.EditsAnnotation` says that such a
  write keeps the data and every other annotation of the object.
-/

set_option autoImplicit false

namespace ConfigRollout

open Reconcile Ownership

namespace ConfigObject

/-- `o'` is `o` with the annotation `key` set to `v`, or removed when `v` is `none`: it has the
kind, the data and the metadata of `o`, every other annotation included. -/
def EditsAnnotation (key : String) (v : Option String) (o o' : ConfigObject) : Prop :=
  ∃ a, o' = o.setMetadata { o.metadata with annotations := a } ∧
    ∀ k, ({ o.metadata with annotations := a } : ObjectMeta).annotation? k =
      if k = key then v else o.metadata.annotation? k

/-- Setting a link edits exactly the link's annotation, to the kind. -/
theorem editsAnnotation_setOwnerLink (o : ConfigObject) (owner kind : String) :
    o.EditsAnnotation (ownerKey owner) (some kind) (o.setOwnerLink owner kind) := by
  refine ⟨_, rfl, fun k => ?_⟩
  by_cases hk : k = ownerKey owner
  · simp [ObjectMeta.annotation?, hk]
  · cases ha : o.metadata.annotations <;>
      simp [ObjectMeta.annotation?, ha, hk, Ne.symm hk]

/-- Removing a link erases its one entry and nothing else. -/
theorem editsAnnotation_removeOwnerLink (o : ConfigObject) (owner : String) :
    o.EditsAnnotation (ownerKey owner) none (o.removeOwnerLink owner) :=
  ⟨_, rfl, ObjectMeta.annotation?_erase o.metadata (ownerKey owner)⟩

end ConfigObject

namespace MemoryStore

/-- How a reconcile of the workload named `n`, of kind `kind`, in namespace `ns` may leave the
object under a key: as it was, or written (its version moved on) as a copy of the object that
was there with one change: the link of `n` set to `kind` where the object had no valid link of
`n`, or that link removed where the workload owned it. -/
def LinkWrite (ns n kind : String) (before after : Option ConfigObject) : Prop :=
  after = before ∨ ∃ o o', before = some o ∧ o.key.ns = ns ∧ after = some o'.written ∧
    ((o.hasOwnerLink n = false ∧ o.EditsAnnotation (ownerKey n) (some kind) o') ∨
      (o.ownsLink n kind = true ∧ o.EditsAnnotation (ownerKey n) none o'))

/-- `t` holds under every key what `s` holds there, or that as `f` leaves it: the store left by
a run that did some of the work a successful run does. -/
def Progress (s t : MemoryStore) (f : ConfigObject → ConfigObject) : Prop :=
  ∀ k, t.config? k = s.config? k ∨ t.config? k = (s.config? k).map f

/-- A store has done part of the work of any `f` on itself: none of it. -/
theorem Progress.refl (s : MemoryStore) (f : ConfigObject → ConfigObject) : s.Progress s f :=
  fun _ => .inl rfl

/-- A store with the same object under every key as one that did part of the work of `f` did it too.
-/
theorem Progress.of_config?_eq {s t u : MemoryStore} {f : ConfigObject → ConfigObject}
    (h : s.Progress t f) (hu : ∀ k, u.config? k = t.config? k) : s.Progress u f :=
  fun k => by rw [hu k]; exact h k

@[simp] theorem config?_commitWorkload (s : MemoryStore) (d : Workload) (k : ConfigKey) :
    (s.commitWorkload d).config? k = s.config? k := rfl

/-- After a list of children with distinct keys is handled, each key holds what it held, or the
edited copy of a child that was not skipped, written. -/
theorem config?_foldl_editStep_cases (skip : ConfigObject → Bool) (edit : ConfigObject → ConfigObject)
    (reason : String) (hedit : KeepsKey edit) (cs : List ConfigObject) (s : MemoryStore)
    (hkeys : (cs.map ConfigObject.key).Nodup) (k : ConfigKey) :
    (cs.foldl (editStep skip edit reason) s).config? k = s.config? k ∨
      ∃ c ∈ cs, c.key = k ∧ skip c = false ∧
        (cs.foldl (editStep skip edit reason) s).config? k = some (edit c).written := by
  by_cases hk : k ∈ cs.map ConfigObject.key
  · obtain ⟨c, hc, rfl⟩ := List.mem_map.mp hk
    rw [config?_foldl_editStep_of_mem skip edit reason hedit cs s hkeys hc]
    by_cases hw : s.writes skip c = true
    · have hskip : skip c = false := by
        simp only [writes, Bool.and_eq_true, Bool.not_eq_true'] at hw
        exact hw.1
      exact .inr ⟨c, hc, rfl, hskip, by rw [if_pos hw]⟩
    · exact .inl (by rw [if_neg hw])
  · exact .inl (config?_foldl_editStep_of_not_mem skip edit reason hedit cs s hk)

/-! ## The stages of an active run -/

/-- The current children of an active workload: the stored objects of its uses. -/
def currentOf (s : MemoryStore) (w : Workload) : List ConfigObject :=
  (s.bindingsAt w.metadata.nsOrEmpty w.references).map (·.object)

/-- The orphans that an active reconcile of a workload unlinks. -/
def orphansOf (s : MemoryStore) (w : Workload) : List ConfigObject :=
  orphans (s.ownedBy w.metadata.nsOrEmpty w.metadata.nameAny w.kind) (s.bindingsAt w.metadata.nsOrEmpty w.references)

/-- The store once an active reconcile has handled every current child. -/
def linkedFor (s : MemoryStore) (w : Workload) : MemoryStore :=
  (s.currentOf w).foldl (linkStep w.metadata.nameAny w.kind) s

/-- The store once an active reconcile has handled every current child and then every orphan. -/
def unlinkedFor (s : MemoryStore) (w : Workload) : MemoryStore :=
  (s.orphansOf w).foldl (unlinkStep w.metadata.nameAny) (s.linkedFor w)

variable {s : MemoryStore} {w : Workload}

/-- A current child is the object stored under its key. -/
theorem WellFormed.config?_of_mem_currentOf (hwf : s.WellFormed) {c : ConfigObject} (hc : c ∈ s.currentOf w) :
    s.config? c.key = some c := by
  obtain ⟨b, hb, rfl⟩ := List.mem_map.mp hc
  exact hwf.config?_of_mem_bindingsAt hb

/-- The current children of a workload have distinct keys. -/
theorem WellFormed.nodup_currentOf_keys (hwf : s.WellFormed) : ((s.currentOf w).map ConfigObject.key).Nodup := by
  rw [currentOf, List.map_map]
  exact hwf.nodup_bindingsAt_keys _ w

/-- An orphan is the object stored under its key. -/
theorem WellFormed.config?_of_mem_orphansOf (hwf : s.WellFormed) {e : ConfigObject} (he : e ∈ s.orphansOf w) :
    s.config? e.key = some e :=
  (hwf.mem_ownedBy_iff.mp ((mem_orphans e _ _).mp he).1).1

/-- The orphans of a workload have distinct keys. -/
theorem WellFormed.nodup_orphansOf_keys (hwf : s.WellFormed) : ((s.orphansOf w).map ConfigObject.key).Nodup :=
  (hwf.nodup_ownedBy_keys _ _ _).sublist ((List.filter_sublist).map _)

/-- A current child that needs a link is linked by a successful run. -/
theorem WellFormed.afterActive_of_mem_currentOf (hwf : s.WellFormed) {c : ConfigObject} (hc : c ∈ s.currentOf w)
    (hl : c.hasOwnerLink w.metadata.nameAny = false) :
    s.afterActive w c = (c.setOwnerLink w.metadata.nameAny w.kind.name).written := by
  have hu : w.usesKey c.key = true := (hwf.usesKey_iff (hwf.config?_of_mem_currentOf hc)).mpr hc
  simp [afterActive, hu, hl]

/-- An orphan is unlinked by a successful run. -/
theorem WellFormed.afterActive_of_mem_orphansOf (hwf : s.WellFormed) {e : ConfigObject} (he : e ∈ s.orphansOf w) :
    s.afterActive w e = (e.removeOwnerLink w.metadata.nameAny).written := by
  have hs := hwf.config?_of_mem_orphansOf he
  -- an orphan's key is no used key: the object there would be a current child with its identity
  have hu : w.usesKey e.key = false := by
    rw [← Bool.not_eq_true]
    intro h
    obtain ⟨b, hb, hbe⟩ := List.mem_map.mp ((hwf.usesKey_iff hs).mp h)
    exact ((mem_orphans e _ _).mp he).2 b hb (by rw [hbe])
  have ho : s.orphaned w e = true := (hwf.orphaned_iff hs).mpr he
  simp [afterActive, hu, ho]

/-- Linking the current children does part of the work of a successful run. -/
theorem WellFormed.progress_linkedFor (hwf : s.WellFormed) : s.Progress (s.linkedFor w) (s.afterActive w) := by
  intro k
  unfold linkedFor linkStep
  rcases config?_foldl_editStep_cases _ _ addWatchReason (keepsKey_setOwnerLink w.metadata.nameAny w.kind.name)
    _ s hwf.nodup_currentOf_keys k with h | ⟨c, hc, rfl, hskip, h⟩
  · exact .inl h
  · right
    rw [h, hwf.config?_of_mem_currentOf hc, Option.map_some, hwf.afterActive_of_mem_currentOf hc hskip]

/-- Linking the current children and then unlinking the orphans does part of the work of a
successful run: an orphan's key is no current child's, so each key is handled once. -/
theorem WellFormed.progress_unlinkedFor (hwf : s.WellFormed) : s.Progress (s.unlinkedFor w) (s.afterActive w) := by
  intro k
  unfold unlinkedFor unlinkStep
  rcases config?_foldl_editStep_cases (!·.hasLinkKey w.metadata.nameAny) _ removeWatchReason
    (keepsKey_removeOwnerLink w.metadata.nameAny) (s.orphansOf w) (s.linkedFor w) hwf.nodup_orphansOf_keys k
    with h | ⟨e, he, rfl, -, h⟩
  · rw [h]
    exact hwf.progress_linkedFor k
  · right
    rw [h, hwf.config?_of_mem_orphansOf he, Option.map_some, hwf.afterActive_of_mem_orphansOf he]

/-! ## Every outcome of an active run -/

/-- Whether a use cannot be fetched: a get of it fails, or it is required and missing. -/
theorem not_fetchable_iff {ns : String} {refs : References} :
    ¬ s.Fetchable ns refs ↔
      ∃ u ∈ refs.toList, s.getFails u.1 u.2.1 = true ∨ (u.2.2.required = true ∧ s.config? ⟨u.1, ns, u.2.1⟩ = none) := by
  simp only [Fetchable, not_forall, not_and_or, Bool.not_eq_false, Option.not_isSome_iff_eq_none,
    exists_prop]

/-- A failed fetch of the current children reports fetch failures. -/
theorem currentAnswer_eq_error {ns : String} {refs : References} {e : RollError}
    (h : s.currentAnswer ns refs = .error e) : ∃ l, e = .fetchChildren l := by
  unfold currentAnswer at h
  dsimp only at h
  split at h
  · cases h
  · cases h
    exact ⟨_, rfl⟩

/-- A failing list ends an active run at once, with the store as it was. -/
theorem handleActive_of_failed_list {ns : String} (hns : w.metadata.ns = some ns) {k : ConfigKind}
    (hk : k ∈ s.failingLists) :
    ∃ l, ((handleActive w).run : StateM MemoryStore _).run s = pure (.error (.listChildren l), s) := by
  obtain ⟨e, he⟩ := existingAnswer_of_fails ns w.metadata.nameAny w.kind hk
  obtain ⟨l, rfl⟩ := existingAnswer_eq_error he
  refine ⟨l, ?_⟩
  rw [handleActive_run w hns s, he]

/-- With the lists answered, a use that cannot be fetched ends an active run, with the store as
it was. -/
theorem handleActive_of_failed_fetch {ns : String} (hns : w.metadata.ns = some ns) (hL : ∀ k, k ∉ s.failingLists)
    (hF : ¬ s.Fetchable ns w.references) :
    ∃ l, ((handleActive w).run : StateM MemoryStore _).run s = pure (.error (.fetchChildren l), s) := by
  cases hC : s.currentAnswer ns w.references with
  | ok bs => exact absurd ((currentAnswer_eq_ok_iff ns _ _).mp hC).1 hF
  | error e =>
      obtain ⟨l, rfl⟩ := currentAnswer_eq_error hC
      refine ⟨l, ?_⟩
      rw [handleActive_run w hns s, existingAnswer_of_lists ns _ _ hL, hC]

/-- An active run whose reads answer: a refused link ends it once every current child was
handled; a refused unlink once every orphan was; otherwise the workload is written unless it is
as desired. -/
theorem WellFormed.handleActive_run_of_reads (hwf : s.WellFormed) {ns : String} (hns : w.metadata.ns = some ns)
    (hL : ∀ k, k ∉ s.failingLists) (hF : s.Fetchable ns w.references) :
    ((handleActive w).run : StateM MemoryStore _).run s =
      if (s.currentOf w).any (s.linkFails w.metadata.nameAny) then
        pure (.error (.updateChildren (((s.currentOf w).filter (s.linkFails w.metadata.nameAny)).map
          injectedChildError)), s.linkedFor w)
      else if (s.orphansOf w).any (s.unlinkFails w.metadata.nameAny) then
        pure (.error (.removeReferences (((s.orphansOf w).filter (s.unlinkFails w.metadata.nameAny)).map
          injectedChildError)), s.unlinkedFor w)
      else if Workload.desired w (s.bindingsAt w.metadata.nsOrEmpty w.references) = w then
        pure (.ok (), s.unlinkedFor w)
      else (writeWorkload (Workload.desired w (s.bindingsAt w.metadata.nsOrEmpty w.references)) :
        StateM MemoryStore _).run (s.unlinkedFor w) := by
  have hnsE := nsOrEmpty_of_ns hns
  subst hnsE
  rw [handleActive_run w hns s, existingAnswer_of_lists _ _ _ hL, (currentAnswer_eq_ok_iff _ _ _).mpr ⟨hF, rfl⟩]
  dsimp only
  rw [updateLinks_run _ _ s _ _ (fun e he => (hwf.mem_ownedBy_iff.mp he).1) (hwf.nodup_ownedBy_keys _ _ _)
    (fun b hb => hwf.config?_of_mem_bindingsAt hb) (hwf.nodup_bindingsAt_keys _ w)]
  simp only [currentOf, orphansOf, linkedFor, unlinkedFor]
  by_cases hl : ((s.bindingsAt w.metadata.nsOrEmpty w.references).map (·.object)).any
      (s.linkFails w.metadata.nameAny) = true
  · simp only [hl, if_true]
    rfl
  · simp only [hl, Bool.false_eq_true, if_false]
    by_cases hu : (orphans (s.ownedBy w.metadata.nsOrEmpty w.metadata.nameAny w.kind)
        (s.bindingsAt w.metadata.nsOrEmpty w.references)).any (s.unlinkFails w.metadata.nameAny) = true
    · simp only [hu, if_true]
      rfl
    · simp only [hu, Bool.false_eq_true, if_false]
      rfl

/-- A failed active run stopped before any write, or once every current child was handled (a
link was refused), or once every orphan was handled too (an unlink or the workload write was
refused). -/
theorem WellFormed.handleActive_error_cases (hwf : s.WellFormed) {e : RollError}
    (herr : (((handleActive w).run : StateM MemoryStore _).run s).1 = .error e) :
    (((handleActive w).run : StateM MemoryStore _).run s).2 = s ∨
      ((s.currentOf w).any (s.linkFails w.metadata.nameAny) = true ∧
        (((handleActive w).run : StateM MemoryStore _).run s).2 = s.linkedFor w) ∨
      ((s.currentOf w).any (s.linkFails w.metadata.nameAny) = false ∧
        (((handleActive w).run : StateM MemoryStore _).run s).2 = s.unlinkedFor w) := by
  cases hns : w.metadata.ns with
  | none => exact .inl (by rw [handleActive_of_no_namespace w hns s]; rfl)
  | some ns =>
      by_cases hL : ∀ k, k ∉ s.failingLists
      · by_cases hF : s.Fetchable ns w.references
        · rw [hwf.handleActive_run_of_reads hns hL hF] at herr ⊢
          by_cases hl : (s.currentOf w).any (s.linkFails w.metadata.nameAny) = true
          · refine .inr (.inl ⟨hl, ?_⟩)
            rw [if_pos hl]
            rfl
          · have hl' : (s.currentOf w).any (s.linkFails w.metadata.nameAny) = false := by simpa using hl
            refine .inr (.inr ⟨hl', ?_⟩)
            rw [if_neg hl] at herr ⊢
            -- the run got past the links; only the unlinks and the workload write are left
            by_cases hu : (s.orphansOf w).any (s.unlinkFails w.metadata.nameAny) = true
            · rw [if_pos hu]
              rfl
            · rw [if_neg hu] at herr ⊢
              by_cases hd : Workload.desired w (s.bindingsAt w.metadata.nsOrEmpty w.references) = w
              · rw [if_pos hd] at herr
                cases herr
              · rw [if_neg hd] at herr ⊢
                rcases writeWorkload_cases (s.unlinkedFor w) _ with h | ⟨e', h⟩
                · rw [h] at herr
                  cases herr
                · rw [h]
                  rfl
        · obtain ⟨l, h⟩ := handleActive_of_failed_fetch hns hL hF
          exact .inl (by rw [h]; rfl)
      · push Not at hL
        obtain ⟨k, hk⟩ := hL
        obtain ⟨l, h⟩ := handleActive_of_failed_list hns hk
        exact .inl (by rw [h]; rfl)

/-- Whatever its outcome, an active run does part of the work of a successful one. -/
theorem WellFormed.progress_handleActive (hwf : s.WellFormed) :
    s.Progress (((handleActive w).run : StateM MemoryStore _).run s).2 (s.afterActive w) := by
  rcases hr : (((handleActive w).run : StateM MemoryStore _).run s).1 with e | ⟨⟩
  · rcases hwf.handleActive_error_cases hr with h | ⟨-, h⟩ | ⟨-, h⟩ <;> rw [h]
    · exact Progress.refl s _
    · exact hwf.progress_linkedFor
    · exact hwf.progress_unlinkedFor
  · obtain ⟨-, -, hstate⟩ := handleActive_ok_folds hwf hr
    refine hwf.progress_unlinkedFor.of_config?_eq (fun k => ?_)
    rw [hstate]
    dsimp only
    split <;> rfl

/-! ## Every outcome of a deleting run -/

/-- The objects that a deleting reconcile of a workload unlinks: those of its namespace whose
link it owns. -/
def ownedOf (s : MemoryStore) (w : Workload) : List ConfigObject :=
  s.ownedBy w.metadata.nsOrEmpty w.metadata.nameAny w.kind

/-- The store once a deleting reconcile has handled every owned object. -/
def strippedFor (s : MemoryStore) (w : Workload) : MemoryStore :=
  (s.ownedOf w).foldl (unlinkStep w.metadata.nameAny) s

/-- The strip writes of a deleting run, whatever their outcome, do part of the work of
`afterDeleting`. -/
theorem WellFormed.progress_strippedFor (hwf : s.WellFormed) : s.Progress (s.strippedFor w) (afterDeleting w) := by
  intro k
  unfold strippedFor unlinkStep
  rcases config?_foldl_editStep_cases (!·.hasLinkKey w.metadata.nameAny) _ removeWatchReason
    (keepsKey_removeOwnerLink w.metadata.nameAny) (s.ownedOf w) s (hwf.nodup_ownedBy_keys _ _ _) k
    with h | ⟨e, he, rfl, -, h⟩
  · exact .inl h
  · right
    obtain ⟨hs, hns, hown⟩ := hwf.mem_ownedBy_iff.mp he
    rw [h, hs, Option.map_some]
    simp [afterDeleting, hns, hown]

/-- A failing list ends a deleting run at once, with the store as it was. -/
theorem handleDeleting_of_failed_list {ns : String} (hns : w.metadata.ns = some ns) {k : ConfigKind}
    (hk : k ∈ s.failingLists) :
    ∃ l, ((handleDeleting w).run : StateM MemoryStore _).run s = pure (.error (.listChildren l), s) := by
  obtain ⟨e, he⟩ := existingAnswer_of_fails ns w.metadata.nameAny w.kind hk
  obtain ⟨l, rfl⟩ := existingAnswer_eq_error he
  refine ⟨l, ?_⟩
  rw [handleDeleting_run w hns s, he]

/-- A deleting run whose lists answer: a refused unlink ends it once every owned object was
handled; otherwise the finalizer is removed, with a write when the workload had it. -/
theorem WellFormed.handleDeleting_run_of_lists (hwf : s.WellFormed) {ns : String} (hns : w.metadata.ns = some ns)
    (hL : ∀ k, k ∉ s.failingLists) :
    ((handleDeleting w).run : StateM MemoryStore _).run s =
      if (s.ownedOf w).any (s.unlinkFails w.metadata.nameAny) then
        pure (.error (.removeReferences (((s.ownedOf w).filter (s.unlinkFails w.metadata.nameAny)).map
          injectedChildError)), s.strippedFor w)
      else if w.removeFinalizer = w then pure (.ok (), s.strippedFor w)
      else (writeWorkload w.removeFinalizer : StateM MemoryStore _).run (s.strippedFor w) := by
  have hnsE := nsOrEmpty_of_ns hns
  subst hnsE
  rw [handleDeleting_run w hns s, existingAnswer_of_lists _ _ _ hL]
  dsimp only
  rw [hwf.removeLinks_ownedBy_run]
  simp only [ownedOf, strippedFor]
  by_cases hu : (s.ownedBy w.metadata.nsOrEmpty w.metadata.nameAny w.kind).any
      (s.unlinkFails w.metadata.nameAny) = true
  · simp only [hu, if_true]
    rfl
  · simp only [hu, Bool.false_eq_true, if_false]
    rfl

/-- A failed deleting run stopped before any write, or once every owned object was handled (an
unlink or the workload write was refused). -/
theorem WellFormed.handleDeleting_error_cases (hwf : s.WellFormed) {e : RollError}
    (herr : (((handleDeleting w).run : StateM MemoryStore _).run s).1 = .error e) :
    (((handleDeleting w).run : StateM MemoryStore _).run s).2 = s ∨
      (((handleDeleting w).run : StateM MemoryStore _).run s).2 = s.strippedFor w := by
  cases hns : w.metadata.ns with
  | none => exact .inl (by rw [handleDeleting_of_no_namespace w hns s]; rfl)
  | some ns =>
      by_cases hL : ∀ k, k ∉ s.failingLists
      · rw [hwf.handleDeleting_run_of_lists hns hL] at herr ⊢
        right
        by_cases hu : (s.ownedOf w).any (s.unlinkFails w.metadata.nameAny) = true
        · rw [if_pos hu]
          rfl
        · rw [if_neg hu] at herr ⊢
          by_cases hd : w.removeFinalizer = w
          · rw [if_pos hd] at herr
            cases herr
          · rw [if_neg hd] at herr ⊢
            rcases writeWorkload_cases (s.strippedFor w) w.removeFinalizer with h | ⟨e', h⟩
            · rw [h] at herr
              cases herr
            · rw [h]
              rfl
      · push Not at hL
        obtain ⟨k, hk⟩ := hL
        obtain ⟨l, h⟩ := handleDeleting_of_failed_list hns hk
        exact .inl (by rw [h]; rfl)

/-- Whatever its outcome, a deleting run does part of the work of a successful one. -/
theorem WellFormed.progress_handleDeleting (hwf : s.WellFormed) :
    s.Progress (((handleDeleting w).run : StateM MemoryStore _).run s).2 (afterDeleting w) := by
  rcases hr : (((handleDeleting w).run : StateM MemoryStore _).run s).1 with e | ⟨⟩
  · rcases hwf.handleDeleting_error_cases hr with h | h <;> rw [h]
    · exact Progress.refl s _
    · exact hwf.progress_strippedFor
  · obtain ⟨-, hstate⟩ := handleDeleting_ok_folds hwf hr
    refine hwf.progress_strippedFor.of_config?_eq (fun k => ?_)
    rw [hstate]
    dsimp only
    split <;> rfl

/-! ## Link writes -/

/-- What a successful active run leaves of a stored object is at most one link write. -/
theorem linkWrite_afterActive (o : ConfigObject) :
    LinkWrite w.metadata.nsOrEmpty w.metadata.nameAny w.kind.name (some o) (some (s.afterActive w o)) := by
  unfold afterActive
  by_cases hu : w.usesKey o.key = true
  · rw [if_pos hu]
    by_cases hl : o.hasOwnerLink w.metadata.nameAny = true
    · rw [if_pos hl]
      exact .inl rfl
    · rw [if_neg hl]
      -- a used key lies in the workload's namespace
      have hns : o.key.ns = w.metadata.nsOrEmpty := by
        obtain ⟨u, -, hk⟩ := List.any_eq_true.mp hu
        rw [beq_iff_eq.mp hk]
      exact .inr ⟨o, _, rfl, hns, rfl, .inl ⟨by simpa using hl, o.editsAnnotation_setOwnerLink _ _⟩⟩
  · rw [if_neg hu]
    by_cases horph : s.orphaned w o = true
    · rw [if_pos horph]
      simp only [orphaned, Bool.and_eq_true, beq_iff_eq] at horph
      exact .inr ⟨o, _, rfl, horph.1.1, rfl,
        .inr ⟨horph.1.2, o.editsAnnotation_removeOwnerLink _⟩⟩
    · rw [if_neg horph]
      exact .inl rfl

/-- What a successful deleting run leaves of an object is at most one link write. -/
theorem linkWrite_afterDeleting (w : Workload) (o : ConfigObject) :
    LinkWrite w.metadata.nsOrEmpty w.metadata.nameAny w.kind.name (some o) (some (afterDeleting w o)) := by
  unfold afterDeleting
  split
  · rename_i h
    exact .inr ⟨o, _, rfl, h.1, rfl, .inr ⟨h.2, o.editsAnnotation_removeOwnerLink _⟩⟩
  · exact .inl rfl

/-- A store that did part of the work of `f`, where `f` makes at most one link write on each
stored object, is at most one link write away from `s` under every key. -/
theorem Progress.linkWrite {t : MemoryStore} {f : ConfigObject → ConfigObject} (h : s.Progress t f)
    (hwf : s.WellFormed) {ns n kind : String}
    (hf : ∀ o, s.config? o.key = some o → LinkWrite ns n kind (some o) (some (f o))) (k : ConfigKey) :
    LinkWrite ns n kind (s.config? k) (t.config? k) := by
  rcases h k with h | h
  · rw [h]
    exact .inl rfl
  · rw [h]
    rcases hk : s.config? k with _ | o
    · exact .inl rfl
    · exact hf o (by rw [hwf.key_of_config? hk]; exact hk)

/-- A stored object as a successful reconcile of a workload leaves it, by the workload's
lifecycle. -/
def afterRun (s : MemoryStore) (w : Workload) (o : ConfigObject) : ConfigObject :=
  match w.lifecycle with
  | .ignored => o
  | .active => s.afterActive w o
  | .deleting => afterDeleting w o

/-- Whatever its outcome, a reconcile of a workload does part of the work of a successful one. -/
theorem WellFormed.progress_handleWorkload (hwf : s.WellFormed) :
    s.Progress ((handleWorkload w : StateM MemoryStore _).run s).2 (s.afterRun w) := by
  unfold afterRun
  cases hlc : w.lifecycle with
  | ignored =>
      rw [handleWorkload_of_ignored hlc]
      exact Progress.refl s _
  | active =>
      rw [handleWorkload_of_active hlc]
      exact hwf.progress_handleActive
  | deleting =>
      rw [handleWorkload_of_deleting hlc]
      exact hwf.progress_handleDeleting

/-- What a successful reconcile leaves of a stored object is at most one link write. -/
theorem linkWrite_afterRun (o : ConfigObject) :
    LinkWrite w.metadata.nsOrEmpty w.metadata.nameAny w.kind.name (some o) (some (s.afterRun w o)) := by
  unfold afterRun
  cases w.lifecycle with
  | ignored => exact .inl rfl
  | active => exact linkWrite_afterActive o
  | deleting => exact linkWrite_afterDeleting w o

/-! ## What every run keeps -/

/-- Whatever its outcome, a reconcile leaves the store as it was, or one of the stages of its
run, possibly with a workload of its own key written: the inversion lemma from which the facts
below about every run follow. -/
theorem WellFormed.handleWorkload_stages (hwf : s.WellFormed) (w : Workload) :
    ∃ u ∈ [s, s.linkedFor w, s.unlinkedFor w, s.strippedFor w],
      ((handleWorkload w : StateM MemoryStore _).run s).2 = u ∨
      ∃ d : Workload, d.key = w.key ∧ ((handleWorkload w : StateM MemoryStore _).run s).2 = u.commitWorkload d := by
  cases hlc : w.lifecycle with
  | ignored => exact ⟨s, by simp, .inl (by rw [handleWorkload_of_ignored hlc]; rfl)⟩
  | active =>
      rw [handleWorkload_of_active hlc]
      rcases hr : (((handleActive w).run : StateM MemoryStore _).run s).1 with e | ⟨⟩
      · rcases hwf.handleActive_error_cases hr with h | ⟨-, h⟩ | ⟨-, h⟩
        · exact ⟨s, by simp, .inl h⟩
        · exact ⟨s.linkedFor w, by simp, .inl h⟩
        · exact ⟨s.unlinkedFor w, by simp, .inl h⟩
      · obtain ⟨-, -, h⟩ := handleActive_ok_folds hwf hr
        refine ⟨s.unlinkedFor w, by simp, ?_⟩
        rw [h]
        dsimp only
        split
        · exact .inl rfl
        · exact .inr ⟨_, Workload.key_desired w _, rfl⟩
  | deleting =>
      rw [handleWorkload_of_deleting hlc]
      rcases hr : (((handleDeleting w).run : StateM MemoryStore _).run s).1 with e | ⟨⟩
      · rcases hwf.handleDeleting_error_cases hr with h | h
        · exact ⟨s, by simp, .inl h⟩
        · exact ⟨s.strippedFor w, by simp, .inl h⟩
      · obtain ⟨-, h⟩ := handleDeleting_ok_folds hwf hr
        refine ⟨s.strippedFor w, by simp, ?_⟩
        rw [h]
        dsimp only
        split
        · exact .inl rfl
        · exact .inr ⟨_, Workload.key_removeFinalizer w, rfl⟩

/-- Linking the current children keeps the store well formed. -/
theorem WellFormed.linkedFor (hwf : s.WellFormed) : (s.linkedFor w).WellFormed :=
  hwf.foldl_editStep _ _ _ _

/-- Unlinking the orphans keeps the store well formed. -/
theorem WellFormed.unlinkedFor (hwf : s.WellFormed) : (s.unlinkedFor w).WellFormed :=
  hwf.linkedFor.foldl_editStep _ _ _ _

/-- Stripping the owned objects keeps the store well formed. -/
theorem WellFormed.strippedFor (hwf : s.WellFormed) : (s.strippedFor w).WellFormed :=
  hwf.foldl_editStep _ _ _ _

/-- Every run of a reconcile, successful or not, keeps the store well formed. -/
theorem wellFormed_handleWorkload (hwf : s.WellFormed) (w : Workload) :
    ((handleWorkload w : StateM MemoryStore _).run s).2.WellFormed := by
  obtain ⟨u, hu, h | ⟨d, -, h⟩⟩ := hwf.handleWorkload_stages w <;> rw [h]
  all_goals
    have hwfu : u.WellFormed := by
      simp only [List.mem_cons, List.not_mem_nil, or_false] at hu
      rcases hu with rfl | rfl | rfl | rfl
      exacts [hwf, hwf.linkedFor, hwf.unlinkedFor, hwf.strippedFor]
  · exact hwfu
  · exact hwfu.commitWorkload d

/-- Every run of a reconcile keeps the failure settings of the store. -/
theorem failures_handleWorkload (hwf : s.WellFormed) (w : Workload) :
    let t := ((handleWorkload w : StateM MemoryStore _).run s).2
    t.failingLists = s.failingLists ∧ t.failingGets = s.failingGets ∧
      t.failingUpdates = s.failingUpdates ∧ t.failWorkloadUpdates = s.failWorkloadUpdates := by
  obtain ⟨u, hu, h | ⟨d, -, h⟩⟩ := hwf.handleWorkload_stages w <;>
    simp only [List.mem_cons, List.not_mem_nil, or_false] at hu <;> rw [h] <;>
    rcases hu with rfl | rfl | rfl | rfl <;>
    simp [linkedFor, unlinkedFor, strippedFor, linkStep, unlinkStep, commitWorkload]

/-- Every run of a reconcile leaves the workloads of other keys alone. -/
theorem workload?_handleWorkload_of_ne (hwf : s.WellFormed) (w : Workload) {kind : WorkloadKind}
    {ns name : String} (hne : (⟨kind, ns, name⟩ : WorkloadKey) ≠ w.key) :
    ((handleWorkload w : StateM MemoryStore _).run s).2.workload? kind ns name = s.workload? kind ns name := by
  -- no stage writes a workload, and the one written has the key of `w`
  have hstage : ∀ u ∈ [s, s.linkedFor w, s.unlinkedFor w, s.strippedFor w], u.workloads = s.workloads := by
    simp [linkedFor, unlinkedFor, strippedFor, linkStep, unlinkStep]
  obtain ⟨u, hu, h | ⟨d, hd, h⟩⟩ := hwf.handleWorkload_stages w <;> rw [h]
  · simp only [workload?, hstage u hu]
  · simp only [workload?, commitWorkload, Table.lookup_upsert, hd, if_neg hne, hstage u hu]

end MemoryStore

open MemoryStore

/-- A reconcile whose reads fail changes nothing. Let `w` be in the namespace `ns`. When it is
active, a failing list of either kind ends the run with a list failure; with the lists answered,
a use that cannot be fetched (a get of it fails, even for an optional use, or it is required and
missing) ends the run with a fetch failure. When it is deleting, a failing list ends the run with
a list failure. Each time the store, its write counters and its events included, is exactly as
it was. -/
theorem handleWorkload_failed_read_unchanged (s : MemoryStore) (w : Workload) {ns : String}
    (hns : w.metadata.ns = some ns) :
    (w.lifecycle = .active → (∃ k, k ∈ s.failingLists) →
      ∃ l, (handleWorkload w : StateM MemoryStore _).run s = pure (.error (.listChildren l), s)) ∧
    (w.lifecycle = .active → (∀ k, k ∉ s.failingLists) →
      (∃ u ∈ w.references.toList, s.getFails u.1 u.2.1 = true ∨
        (u.2.2.required = true ∧ s.config? ⟨u.1, ns, u.2.1⟩ = none)) →
      ∃ l, (handleWorkload w : StateM MemoryStore _).run s = pure (.error (.fetchChildren l), s)) ∧
    (w.lifecycle = .deleting → (∃ k, k ∈ s.failingLists) →
      ∃ l, (handleWorkload w : StateM MemoryStore _).run s = pure (.error (.listChildren l), s)) := by
  refine ⟨fun hlc ⟨k, hk⟩ => ?_, fun hlc hL hu => ?_, fun hlc ⟨k, hk⟩ => ?_⟩
  · rw [handleWorkload_of_active hlc]
    exact handleActive_of_failed_list hns hk
  · rw [handleWorkload_of_active hlc]
    exact handleActive_of_failed_fetch hns hL (not_fetchable_iff.mpr hu)
  · rw [handleWorkload_of_deleting hlc]
    exact handleDeleting_of_failed_list hns hk

/-- A deployment that needs a key of a Secret that is not there: the reconcile reports the
missing Secret and leaves the store as it was. -/
theorem handleWorkload_failed_read_unchanged_missing :
    let w : Workload :=
      { kind := .deployment,
        metadata := { name := some "web", ns := some "default",
                      annotations := some (Dict.empty.insert Workload.optInKey "true") },
        template := some { spec := some { containers :=
          [{ env := [{ valueFrom := some { secretKeyRef := some { name := "c", key := "key" } } }] }] } } }
    let s : MemoryStore := { configs := [(⟨.configMap, "default", "a"⟩, .configMap { name := some "a", ns := some "default" } none)] }
    w.metadata.ns = some "default" ∧ w.lifecycle = .active ∧
      ∃ l, (handleWorkload w : StateM MemoryStore _).run s = pure (.error (.fetchChildren l), s) := by
  intro w s
  have hns : w.metadata.ns = some "default" := rfl
  have hactive : w.lifecycle = .active := by decide
  exact ⟨hns, hactive, (handleWorkload_failed_read_unchanged s w hns).2.1 hactive (by simp [s]) (by decide)⟩

/-- Every run of a reconcile, successful or not, writes config objects only to move the link of
the workload: for a workload `w` of kind `K` and name `n`, over a well-formed store, the object
under each key after the run is the one before, or a copy of it, written with its version moved
on, that differs from it in the link of `n` alone. The copy either sets that link to `K` on an
object of `w`'s namespace without a valid link of `n` (creating a missing annotation map), or
removes it from an object of `w`'s namespace whose link `w` owned. The data, the labels and
every other annotation (links of other owners, and a link of `n` naming another kind that `w`
does not own) are kept, and objects of other namespaces are never changed. -/
theorem handleWorkload_writes_only_links (s : MemoryStore) (hwf : s.WellFormed) (w : Workload) (k : ConfigKey) :
    LinkWrite w.metadata.nsOrEmpty w.metadata.nameAny w.kind.name (s.config? k)
      (((handleWorkload w : StateM MemoryStore _).run s).2.config? k) :=
  hwf.progress_handleWorkload.linkWrite hwf (fun o _ => MemoryStore.linkWrite_afterRun o) k

/-- A deployment that uses one ConfigMap and left another: whatever the reconcile does, it only
links the first and unlinks the second. -/
theorem handleWorkload_writes_only_links_relink :
    let app : ConfigObject := .configMap { name := some "app", ns := some "prod" } none
    let old : ConfigObject :=
      .configMap { name := some "old", ns := some "prod",
                   annotations := some (Dict.empty.insert (ownerKey "web") "Deployment") } none
    let w : Workload :=
      { kind := .deployment,
        metadata := { name := some "web", ns := some "prod",
                      annotations := some (Dict.empty.insert Workload.optInKey "true") },
        template := some { spec := some { volumes := [{ configMap := some "app" }] } } }
    let s : MemoryStore :=
      { workloads := [(⟨.deployment, "prod", "web"⟩, w)],
        configs := [(⟨.configMap, "prod", "app"⟩, app), (⟨.configMap, "prod", "old"⟩, old)],
        failingUpdates := [(.configMap, "old")] }
    s.WellFormed ∧ ∀ k, LinkWrite w.metadata.nsOrEmpty w.metadata.nameAny w.kind.name (s.config? k)
      (((handleWorkload w : StateM MemoryStore _).run s).2.config? k) := by
  intro app old w s
  have hwf : s.WellFormed := ⟨⟨by decide, by decide⟩, ⟨by decide, by decide⟩⟩
  exact ⟨hwf, handleWorkload_writes_only_links s hwf w⟩

end ConfigRollout
