import ConfigRollout.Proofs.ActiveReconcile
import ConfigRollout.Proofs.DeletingReconcile

/-!
# Reconciling twice

A successful reconcile leaves a store that the same reconcile does not change: run again, it
succeeds, writes nothing and publishes nothing (`reconcile_idempotent`).

The desired form of a workload is a fixed point: recorded once, recording it again for
children with the same fingerprint gives it back (`Workload.desired_desired`). After an active
reconcile every current child is linked, every owned object is a current child by identity, and
the workload is in its desired form (`activeSettled_handleActive`); from such a store an active
reconcile changes nothing (`handleActive_of_settled`). After a deleting reconcile no object is
owned and the finalizer is gone (`ownedBy_handleDeleting`); from there a deleting reconcile
changes nothing (`handleDeleting_of_settled`), and a workload that is no longer opted in is
ignored.
-/

set_option autoImplicit false

namespace ConfigRollout

open Reconcile

namespace Workload

variable (w : Workload) (hash hash' : String)

/-- Recording a second config hash replaces the first. -/
@[simp] theorem setConfigHash_setConfigHash :
    (w.setConfigHash hash).setConfigHash hash' = w.setConfigHash hash' := by
  simp [setConfigHash]

/-- Recording the config hash and adding the finalizer commute. -/
theorem setConfigHash_addFinalizer : w.addFinalizer.setConfigHash hash = (w.setConfigHash hash).addFinalizer := by
  unfold addFinalizer
  split <;> simp_all [setConfigHash, hasFinalizer, finalizerList]

/-- Recording the config hash commutes with a write, which moves the version on. -/
theorem setConfigHash_written : w.written.setConfigHash hash = (w.setConfigHash hash).written := rfl

@[simp] theorem hasFinalizer_written : w.written.hasFinalizer = w.hasFinalizer := rfl

/-- Adding the finalizer commutes with a write. -/
theorem addFinalizer_written : w.written.addFinalizer = w.addFinalizer.written := by
  by_cases h : w.hasFinalizer = true
  · rw [addFinalizer_of_hasFinalizer _ (by rwa [hasFinalizer_written]), addFinalizer_of_hasFinalizer _ h]
  · have h' : w.written.hasFinalizer = false := by simpa using h
    simp only [addFinalizer, h', h, Bool.false_eq_true, if_false]
    rfl

/-- Adding the finalizer twice adds it once. -/
@[simp] theorem addFinalizer_addFinalizer : w.addFinalizer.addFinalizer = w.addFinalizer :=
  addFinalizer_of_hasFinalizer _ (hasFinalizer_addFinalizer w)

/-- The desired form is a fixed point: the desired form of a desired form is the one for the
new children. -/
theorem desired_desired (c c' : List Binding) :
    Workload.desired (Workload.desired w c) c' = Workload.desired w c' := by
  simp [Workload.desired, setConfigHash_addFinalizer]

/-- The desired form of a written workload is the written desired form. -/
theorem desired_written (c : List Binding) : Workload.desired w.written c = (Workload.desired w c).written := by
  simp only [Workload.desired, setConfigHash_written, addFinalizer_written]

/-- The desired form reads the children through their fingerprint only. -/
theorem desired_congr {c c' : List Binding} (h : fingerprint c = fingerprint c') :
    Workload.desired w c = Workload.desired w c' := by
  simp only [Workload.desired, h]

@[simp] theorem optedIn_setConfigHash : (w.setConfigHash hash).optedIn = w.optedIn := rfl

@[simp] theorem podSpec_setConfigHash : (w.setConfigHash hash).podSpec = w.podSpec := by
  cases h : w.template <;> simp [setConfigHash, podSpec, h]

@[simp] theorem podSpec_addFinalizer : w.addFinalizer.podSpec = w.podSpec := by
  unfold addFinalizer
  split <;> rfl

@[simp] theorem references_desired (c : List Binding) : (Workload.desired w c).references = w.references := by
  simp [Workload.desired, references]

@[simp] theorem references_written : w.written.references = w.references := rfl

@[simp] theorem metadata_ns_desired (c : List Binding) : (Workload.desired w c).metadata.ns = w.metadata.ns := by
  simp only [Workload.desired, addFinalizer]
  split <;> rfl

@[simp] theorem lifecycle_written : w.written.lifecycle = w.lifecycle := rfl

@[simp] theorem optedIn_addFinalizer : w.addFinalizer.optedIn = w.optedIn := by
  unfold addFinalizer
  split <;> rfl

@[simp] theorem markedForDeletion_addFinalizer :
    w.addFinalizer.metadata.markedForDeletion = w.metadata.markedForDeletion := by
  unfold addFinalizer
  split <;> rfl

@[simp] theorem optedIn_removeFinalizer : w.removeFinalizer.optedIn = w.optedIn := by
  unfold removeFinalizer
  split <;> rfl

@[simp] theorem markedForDeletion_removeFinalizer :
    w.removeFinalizer.metadata.markedForDeletion = w.metadata.markedForDeletion := by
  unfold removeFinalizer
  split <;> rfl

/-- A workload is active exactly when it is opted in and not marked for deletion. -/
theorem lifecycle_eq_active_iff :
    w.lifecycle = .active ↔ w.optedIn = true ∧ w.metadata.markedForDeletion = false := by
  unfold lifecycle
  cases w.optedIn <;> cases w.metadata.markedForDeletion <;> cases w.hasFinalizer <;> simp

/-- An active workload stays active in its desired form. -/
theorem lifecycle_desired {w : Workload} (c : List Binding) (h : w.lifecycle = .active) :
    (Workload.desired w c).lifecycle = .active := by
  rw [lifecycle_eq_active_iff] at h ⊢
  simpa [Workload.desired] using h

/-- Without the finalizer a workload is not active unless it already was. -/
theorem lifecycle_removeFinalizer_ne_active {w : Workload} (h : w.lifecycle = .deleting) :
    w.removeFinalizer.lifecycle ≠ .active := by
  intro ha
  rw [lifecycle_eq_active_iff] at ha
  simp only [optedIn_removeFinalizer, markedForDeletion_removeFinalizer] at ha
  have : w.lifecycle = .active := (lifecycle_eq_active_iff w).mpr ha
  rw [h] at this
  cases this

end Workload

namespace MemoryStore

/-- A store in which an active workload is settled: every current child carries a valid link of
it, every object whose link it owns is a current child by identity, and the workload is in its
desired form. -/
structure ActiveSettled (s : MemoryStore) (w : Workload) : Prop where
  /-- The current children are linked. -/
  linked : ∀ b ∈ s.bindingsAt w.metadata.nsOrEmpty w.references, b.object.hasOwnerLink w.metadata.nameAny = true
  /-- No owned object is an orphan. -/
  owned : ∀ o ∈ s.ownedBy w.metadata.nsOrEmpty w.metadata.nameAny w.kind,
    ∃ b ∈ s.bindingsAt w.metadata.nsOrEmpty w.references, b.object.identity = o.identity
  /-- The workload carries its fingerprint and the finalizer. -/
  desired : Workload.desired w (s.bindingsAt w.metadata.nsOrEmpty w.references) = w

/-- Owned objects that are all current children leave no orphan. -/
theorem orphans_eq_nil {existing : List ConfigObject} {current : List Binding}
    (h : ∀ o ∈ existing, ∃ b ∈ current, b.object.identity = o.identity) : orphans existing current = [] := by
  rw [List.eq_nil_iff_forall_not_mem]
  intro o ho
  obtain ⟨hmem, hid⟩ := (mem_orphans o existing current).mp ho
  obtain ⟨b, hb, hbo⟩ := h o hmem
  exact hid b hb hbo

/-- A used object after an active reconcile carries a valid link. -/
theorem hasOwnerLink_afterActive {s : MemoryStore} {w : Workload} {o : ConfigObject}
    (hu : w.usesKey o.key = true) : (s.afterActive w o).hasOwnerLink w.metadata.nameAny = true := by
  unfold afterActive
  rw [if_pos hu]
  split
  · assumption
  · rw [ConfigObject.hasOwnerLink_written]
    exact ConfigObject.hasOwnerLink_setOwnerLink o _ w.kind

end MemoryStore

open MemoryStore

/-! ## The active path run twice -/

section Active

variable {s : MemoryStore} {w : Workload}

/-- From a store in which an active workload is settled, and whose reads answer, an active
reconcile succeeds and changes nothing. -/
theorem handleActive_of_settled (hwf : s.WellFormed) {ns : String} (hns : w.metadata.ns = some ns)
    (hstored : Table.lookup w.key s.workloads = some w) (hlists : ∀ k, k ∉ s.failingLists)
    (hfetch : s.Fetchable ns w.references) (hset : s.ActiveSettled w) :
    (((handleActive w).run : StateM MemoryStore _).run s) = (.ok (), s) := by
  have hnsE := nsOrEmpty_of_ns hns
  subst hnsE
  have hlinked : ∀ c ∈ (s.bindingsAt w.metadata.nsOrEmpty w.references).map (·.object),
      c.hasOwnerLink w.metadata.nameAny = true := by
    intro c hc
    obtain ⟨b, hb, rfl⟩ := List.mem_map.mp hc
    exact hset.linked b hb
  have hnil := orphans_eq_nil hset.owned
  have hok : (((handleActive w).run : StateM MemoryStore _).run s).1 = .ok () := by
    refine (handleActive_ok_iff hwf hns hstored).mpr ⟨hlists, hfetch, ?_, by rw [hnil]; rfl, .inl hset.desired⟩
    exact List.any_eq_false.mpr (fun c hc => by simp [linkFails, hlinked c hc])
  obtain ⟨-, -, hstate⟩ := handleActive_ok_folds hwf hok
  -- nothing to link, no orphan, and no workload write
  have hsame : (((handleActive w).run : StateM MemoryStore _).run s).2 = s := by
    rw [hstate]
    dsimp only
    rw [if_pos hset.desired, hnil, List.foldl_nil, linkStep, foldl_editStep_of_skip _ _ _ _ _ hlinked]
  exact Prod.ext hok hsame

/-- A successful active reconcile keeps the store well formed. -/
theorem MemoryStore.WellFormed.handleActive_ok (hwf : s.WellFormed)
    (hok : (((handleActive w).run : StateM MemoryStore _).run s).1 = .ok ()) :
    (((handleActive w).run : StateM MemoryStore _).run s).2.WellFormed := by
  obtain ⟨-, -, hstate⟩ := handleActive_ok_folds hwf hok
  have hlinked : (((s.bindingsAt w.metadata.nsOrEmpty w.references).map (·.object)).foldl
      (linkStep w.metadata.nameAny w.kind) s).WellFormed :=
    hwf.foldl_editStep _ _ _ _
  have hunlinked : ((orphans (s.ownedBy w.metadata.nsOrEmpty w.metadata.nameAny w.kind)
      (s.bindingsAt w.metadata.nsOrEmpty w.references)).foldl (unlinkStep w.metadata.nameAny)
      (((s.bindingsAt w.metadata.nsOrEmpty w.references).map (·.object)).foldl
        (linkStep w.metadata.nameAny w.kind) s)).WellFormed :=
    hlinked.foldl_editStep _ _ _ _
  rw [hstate]
  dsimp only
  split
  · exact hunlinked
  · exact hunlinked.commitWorkload _

/-- A successful active reconcile leaves the failure settings as they were. -/
theorem failing_handleActive_ok (hwf : s.WellFormed)
    (hok : (((handleActive w).run : StateM MemoryStore _).run s).1 = .ok ()) :
    (((handleActive w).run : StateM MemoryStore _).run s).2.failingLists = s.failingLists ∧
      (((handleActive w).run : StateM MemoryStore _).run s).2.failingGets = s.failingGets := by
  obtain ⟨-, -, hstate⟩ := handleActive_ok_folds hwf hok
  rw [hstate]
  dsimp only
  split <;> simp [unlinkStep, linkStep, commitWorkload]

/-- After a successful active reconcile the workload, as stored, is settled. -/
theorem activeSettled_handleActive (hwf : s.WellFormed)
    (hok : (((handleActive w).run : StateM MemoryStore _).run s).1 = .ok ()) :
    let d := Workload.desired w (s.bindingsAt w.metadata.nsOrEmpty w.references)
    (((handleActive w).run : StateM MemoryStore _).run s).2.ActiveSettled (if d = w then w else d.written) := by
  intro d
  set s' := (((handleActive w).run : StateM MemoryStore _).run s).2
  set ns := w.metadata.nsOrEmpty
  set n := w.metadata.nameAny
  have hconf := config?_handleActive hwf hok
  have hbind : s'.bindingsAt ns w.references =
      (s.bindingsAt ns w.references).map (fun b => ⟨s.afterActive w b.object, b.spec⟩) :=
    bindingsAt_of_config? hconf ns w.references
  -- the settled workload reads the same namespace, name, kind and uses as `w`
  obtain ⟨hns1, hn1, hk1, hr1⟩ : (if d = w then w else d.written).metadata.nsOrEmpty = ns ∧
      (if d = w then w else d.written).metadata.nameAny = n ∧ (if d = w then w else d.written).kind = w.kind ∧
      (if d = w then w else d.written).references = w.references := by
    split
    · exact ⟨rfl, rfl, rfl, rfl⟩
    · exact ⟨Workload.metadata_desired_ns w _, Workload.metadata_desired_name w _, Workload.kind_desired w _,
        Workload.references_desired w _⟩
  refine ⟨?_, ?_, ?_⟩
  · -- every current child is a used object, linked by the run
    rw [hns1, hn1, hr1, hbind]
    intro b hb
    obtain ⟨b₀, hb₀, rfl⟩ := List.mem_map.mp hb
    have hu : w.usesKey b₀.object.key = true :=
      (hwf.usesKey_iff (hwf.config?_of_mem_bindingsAt hb₀)).mpr (List.mem_map_of_mem hb₀)
    exact hasOwnerLink_afterActive hu
  · -- an owned object is a used object, or was no orphan and so matches a current child
    rw [hns1, hn1, hk1, hr1]
    intro o' ho'
    obtain ⟨hs'₀, hns', hown'⟩ := (hwf.handleActive_ok hok).mem_ownedBy_iff.mp ho'
    have hs' := hs'₀
    rw [hconf] at hs'
    obtain ⟨o, ho, hoo⟩ := Option.map_eq_some_iff.mp hs'
    have hkey : o.key = o'.key := hwf.key_of_config? ho
    by_cases hu : w.usesKey o.key = true
    · obtain ⟨u, hu', hk⟩ := List.any_eq_true.mp hu
      have hk' : o.key = ⟨u.1, ns, u.2.1⟩ := beq_iff_eq.mp hk
      refine ⟨⟨o', u.2.2⟩, mem_bindingsAt.mpr ⟨u, hu', ?_, rfl⟩, rfl⟩
      rw [← hk', hkey]
      exact hs'₀
    · unfold afterActive at hoo
      rw [if_neg hu] at hoo
      by_cases horph : s.orphaned w o = true
      · -- an orphan lost its link, so the workload owns it no more
        rw [if_pos horph] at hoo
        rw [← hoo, ConfigObject.ownsLink_written, ConfigObject.ownsLink_removeOwnerLink] at hown'
        cases hown'
      · -- an owned object that was no orphan has the identity of a current child
        rw [if_neg horph] at hoo
        subst hoo
        have hnot : ¬ ∀ b ∈ s.bindingsAt ns w.references, b.object.identity ≠ o.identity := by
          intro hall
          apply horph
          simp only [orphaned, Bool.and_eq_true, beq_iff_eq, List.all_eq_true, bne_iff_ne, ne_eq]
          exact ⟨⟨by rw [hkey]; exact hns', hown'⟩, hall⟩
        push Not at hnot
        obtain ⟨b, hb, hbo⟩ := hnot
        refine ⟨⟨s.afterActive w b.object, b.spec⟩, ?_, by rw [identity_afterActive, hbo]⟩
        rw [hbind]
        exact List.mem_map_of_mem hb
  · -- the fingerprint did not move, so the desired form is the workload as stored
    rw [hns1, hr1]
    have hfp := fingerprint_bindingsAt_handleActive hwf hok ns
    split
    · rename_i hd
      rw [Workload.desired_congr w hfp]
      exact hd
    · rw [Workload.desired_written, Workload.desired_desired, Workload.desired_congr w hfp]

/-- After a successful active reconcile the used objects of the settled workload can be
fetched again: the gets that fail are the same, and the stored objects are the same keys. -/
theorem fetchable_handleActive (hwf : s.WellFormed)
    (hok : (((handleActive w).run : StateM MemoryStore _).run s).1 = .ok ()) {ns : String}
    (hfetch : s.Fetchable ns w.references) :
    (((handleActive w).run : StateM MemoryStore _).run s).2.Fetchable ns w.references := by
  intro u hu
  obtain ⟨hget, hreq⟩ := hfetch u hu
  refine ⟨by rw [getFails, (failing_handleActive_ok hwf hok).2]; exact hget, fun hr => ?_⟩
  rw [config?_handleActive hwf hok, Option.isSome_map]
  exact hreq hr

end Active

/-! ## The deleting path run twice -/

section Deleting

variable {s : MemoryStore} {w : Workload}

/-- From a store in which a workload without the finalizer owns no object, and whose lists
answer, a deleting reconcile succeeds and changes nothing. -/
theorem handleDeleting_of_settled (hwf : s.WellFormed) {ns : String} (hns : w.metadata.ns = some ns)
    (hstored : Table.lookup w.key s.workloads = some w) (hlists : ∀ k, k ∉ s.failingLists)
    (hnone : s.ownedBy ns w.metadata.nameAny w.kind = []) (hf : w.hasFinalizer = false) :
    (((handleDeleting w).run : StateM MemoryStore _).run s) = (.ok (), s) := by
  have hok : (((handleDeleting w).run : StateM MemoryStore _).run s).1 = .ok () :=
    (handleDeleting_ok_iff hwf hns hstored).mpr ⟨hlists, by rw [hnone]; rfl, .inl hf⟩
  obtain ⟨-, hstate⟩ := handleDeleting_ok_folds hwf hok
  have hsame : (((handleDeleting w).run : StateM MemoryStore _).run s).2 = s := by
    rw [hstate, nsOrEmpty_of_ns hns, hnone]
    dsimp only
    rw [if_pos ((Workload.removeFinalizer_eq_self_iff w).mpr hf), List.foldl_nil]
  exact Prod.ext hok hsame

/-- A successful deleting reconcile keeps the store well formed. -/
theorem MemoryStore.WellFormed.handleDeleting_ok (hwf : s.WellFormed)
    (hok : (((handleDeleting w).run : StateM MemoryStore _).run s).1 = .ok ()) :
    (((handleDeleting w).run : StateM MemoryStore _).run s).2.WellFormed := by
  obtain ⟨-, hstate⟩ := handleDeleting_ok_folds hwf hok
  have hunlinked : ((s.ownedBy w.metadata.nsOrEmpty w.metadata.nameAny w.kind).foldl
      (unlinkStep w.metadata.nameAny) s).WellFormed :=
    hwf.foldl_editStep _ _ _ _
  rw [hstate]
  dsimp only
  split
  · exact hunlinked
  · exact hunlinked.commitWorkload _

/-- A successful deleting reconcile leaves the failing lists as they were. -/
theorem failingLists_handleDeleting_ok (hwf : s.WellFormed)
    (hok : (((handleDeleting w).run : StateM MemoryStore _).run s).1 = .ok ()) :
    (((handleDeleting w).run : StateM MemoryStore _).run s).2.failingLists = s.failingLists := by
  obtain ⟨-, hstate⟩ := handleDeleting_ok_folds hwf hok
  rw [hstate]
  dsimp only
  split <;> simp [unlinkStep, commitWorkload]

/-- After a successful deleting reconcile the workload owns no object of its namespace. -/
theorem ownedBy_handleDeleting (hwf : s.WellFormed)
    (hok : (((handleDeleting w).run : StateM MemoryStore _).run s).1 = .ok ()) :
    (((handleDeleting w).run : StateM MemoryStore _).run s).2.ownedBy w.metadata.nsOrEmpty
      w.metadata.nameAny w.kind = [] := by
  rw [List.eq_nil_iff_forall_not_mem]
  intro o' ho'
  obtain ⟨hs', hns', hown'⟩ := (hwf.handleDeleting_ok hok).mem_ownedBy_iff.mp ho'
  rw [config?_handleDeleting hwf hok] at hs'
  obtain ⟨o, ho, hoo⟩ := Option.map_eq_some_iff.mp hs'
  have hkey : o.key = o'.key := hwf.key_of_config? ho
  unfold afterDeleting at hoo
  split at hoo
  · -- an owned object lost its link
    rw [← hoo, ConfigObject.ownsLink_written, ConfigObject.ownsLink_removeOwnerLink] at hown'
    cases hown'
  · -- any other object was not owned, and is unchanged
    rename_i hnot
    subst hoo
    exact hnot ⟨by rw [hkey]; exact hns', hown'⟩

end Deleting

/-! ## Reconciling twice -/

/-- A reconcile reads the stored workload of the key and handles it; a missing one is done. -/
theorem reconcile_run (s : MemoryStore) (kind : WorkloadKind) (ns name : String) :
    ((reconcile kind ns name : StateM MemoryStore _).run s) =
      match s.workload? kind ns name with
      | none => pure (.ok (), s)
      | some w => (handleWorkload w : StateM MemoryStore _).run s := by
  unfold reconcile
  rw [StateT.run_bind, run_getWorkload, pure_bind]
  cases s.workload? kind ns name <;> rfl


section Twice

variable {s : MemoryStore} {w : Workload}

/-- An active workload reconciled once is settled: reconciled again under its key, it succeeds
and changes nothing. -/
theorem reconcile_after_handleActive (hwf : s.WellFormed) (hstored : Table.lookup w.key s.workloads = some w)
    (hactive : w.lifecycle = .active)
    (hok : (((handleActive w).run : StateM MemoryStore _).run s).1 = .ok ()) :
    let s' := (((handleActive w).run : StateM MemoryStore _).run s).2
    (reconcile w.kind w.metadata.nsOrEmpty w.metadata.nameAny : StateM MemoryStore _).run s' = pure (.ok (), s') := by
  intro s'
  obtain ⟨ns, hns⟩ := ns_of_handleActive_ok hok
  set d := Workload.desired w (s.bindingsAt w.metadata.nsOrEmpty w.references)
  set w₁ := if d = w then w else d.written with hw₁
  have hget : s'.workload? w.kind w.metadata.nsOrEmpty w.metadata.nameAny = some w₁ :=
    workload?_handleActive hwf hstored hok
  -- the stored workload keeps the key, namespace, uses and lifecycle of `w`
  have hkey₁ : w₁.key = w.key := by
    rw [hw₁]
    split <;> simp [d]
  have hns₁ : w₁.metadata.ns = some ns := by
    rw [hw₁]
    split
    · exact hns
    · rw [← hns]
      exact Workload.metadata_ns_desired w _
  have hrefs₁ : w₁.references = w.references := by
    rw [hw₁]
    split <;> simp [d]
  have hactive₁ : w₁.lifecycle = .active := by
    rw [hw₁]
    split
    · exact hactive
    · rw [Workload.lifecycle_written]
      exact Workload.lifecycle_desired _ hactive
  have hstored₁ : Table.lookup w₁.key s'.workloads = some w₁ := by
    rw [hkey₁]
    exact hget
  -- the reads that answered the first run answer the second
  obtain ⟨hlists, hfetch, -, -, -⟩ := (handleActive_ok_iff hwf hns hstored).mp hok
  have hlists₁ : ∀ k, k ∉ s'.failingLists := by
    rw [(failing_handleActive_ok hwf hok).1]
    exact hlists
  have hfetch₁ : s'.Fetchable ns w₁.references := by
    rw [hrefs₁]
    exact fetchable_handleActive hwf hok hfetch
  rw [reconcile_run, hget]
  dsimp only
  rw [handleWorkload_of_active hactive₁]
  exact handleActive_of_settled (hwf.handleActive_ok hok) hns₁ hstored₁ hlists₁ hfetch₁
    (activeSettled_handleActive hwf hok)

/-- A deleting workload reconciled once is settled: reconciled again under its key, it succeeds
and changes nothing, whether it is still deleting or, without the finalizer, now ignored. -/
theorem reconcile_after_handleDeleting (hwf : s.WellFormed) (hstored : Table.lookup w.key s.workloads = some w)
    (hdel : w.lifecycle = .deleting)
    (hok : (((handleDeleting w).run : StateM MemoryStore _).run s).1 = .ok ()) :
    let s' := (((handleDeleting w).run : StateM MemoryStore _).run s).2
    (reconcile w.kind w.metadata.nsOrEmpty w.metadata.nameAny : StateM MemoryStore _).run s' = pure (.ok (), s') := by
  intro s'
  obtain ⟨ns, hns⟩ := ns_of_handleDeleting_ok hok
  set w₁ := if w.hasFinalizer then w.removeFinalizer.written else w with hw₁
  have hget : s'.workload? w.kind w.metadata.nsOrEmpty w.metadata.nameAny = some w₁ :=
    workload?_handleDeleting hwf hstored hok
  -- the stored workload keeps the key and namespace of `w`, without the finalizer
  have hkey₁ : w₁.key = w.key := by
    rw [hw₁]
    split <;> simp
  have hns₁ : w₁.metadata.ns = some ns := by
    rw [hw₁]
    split
    · rw [← hns]
      unfold Workload.removeFinalizer
      split <;> rfl
    · exact hns
  have hfin₁ : w₁.hasFinalizer = false := by
    rw [hw₁]
    split
    · rw [Workload.hasFinalizer_written, Workload.hasFinalizer_removeFinalizer]
    · simpa using ‹¬w.hasFinalizer = true›
  have hactive₁ : w₁.lifecycle ≠ .active := by
    rw [hw₁]
    split
    · rw [Workload.lifecycle_written]
      exact Workload.lifecycle_removeFinalizer_ne_active hdel
    · rw [hdel]
      decide
  have hstored₁ : Table.lookup w₁.key s'.workloads = some w₁ := by
    rw [hkey₁]
    exact hget
  have hname₁ : w₁.metadata.nameAny = w.metadata.nameAny := congrArg WorkloadKey.name hkey₁
  have hkind₁ : w₁.kind = w.kind := congrArg WorkloadKey.kind hkey₁
  obtain ⟨hlists, -, -⟩ := (handleDeleting_ok_iff hwf hns hstored).mp hok
  rw [reconcile_run, hget]
  dsimp only
  cases hlc : w₁.lifecycle with
  | ignored =>
      rw [handleWorkload_of_ignored hlc]
      rfl
  | active => exact absurd hlc hactive₁
  | deleting =>
      -- nothing is owned any more, and there is no finalizer to remove
      have hnone : s'.ownedBy ns w₁.metadata.nameAny w₁.kind = [] := by
        rw [hname₁, hkind₁, ← nsOrEmpty_of_ns hns]
        exact ownedBy_handleDeleting hwf hok
      have hlists₁ : ∀ k, k ∉ s'.failingLists := by
        rw [failingLists_handleDeleting_ok hwf hok]
        exact hlists
      rw [handleWorkload_of_deleting hlc]
      exact handleDeleting_of_settled (hwf.handleDeleting_ok hok) hns₁ hstored₁ hlists₁ hnone hfin₁

end Twice

/-- Reconciling is idempotent: over a well-formed in-memory store, with its failure settings,
a reconcile that succeeds leaves a store from which the same reconcile succeeds and changes
nothing: no workload or config object is written, no counter moves and no event is published.
This holds for an active, a deleting, an ignored and a missing workload alike. -/
theorem reconcile_idempotent (s : MemoryStore) (hwf : s.WellFormed) (kind : WorkloadKind) (ns name : String)
    (hok : ((reconcile kind ns name : StateM MemoryStore _).run s).1 = .ok ()) :
    let s' := ((reconcile kind ns name : StateM MemoryStore _).run s).2
    (reconcile kind ns name : StateM MemoryStore _).run s' = pure (.ok (), s') := by
  intro s'
  have hs' : s' = ((reconcile kind ns name : StateM MemoryStore _).run s).2 := rfl
  rw [reconcile_run] at hs' hok
  cases hw : s.workload? kind ns name with
  | none =>
      -- a missing workload: nothing was done, and nothing is done again
      rw [hw] at hs'
      have hsame : s' = s := hs'
      rw [hsame, reconcile_run, hw]
  | some w =>
      rw [hw] at hs' hok
      dsimp only at hs' hok
      have hkey : w.key = ⟨kind, ns, name⟩ := hwf.key_of_workload? hw
      have hstored : Table.lookup w.key s.workloads = some w := by
        rw [hkey]
        exact hw
      obtain ⟨rfl, rfl, rfl⟩ : w.kind = kind ∧ w.metadata.nsOrEmpty = ns ∧ w.metadata.nameAny = name := by
        simpa [Workload.key] using hkey
      cases hlc : w.lifecycle with
      | ignored =>
          rw [handleWorkload_of_ignored hlc] at hs'
          have hsame : s' = s := hs'
          rw [hsame, reconcile_run, hw]
          dsimp only
          rw [handleWorkload_of_ignored hlc]
          rfl
      | active =>
          rw [handleWorkload_of_active hlc] at hs' hok
          rw [hs']
          exact reconcile_after_handleActive hwf hstored hlc hok
      | deleting =>
          rw [handleWorkload_of_deleting hlc] at hs' hok
          rw [hs']
          exact reconcile_after_handleDeleting hwf hstored hlc hok

/-- A stateful set that takes its environment from a Secret: the first reconcile links the
Secret and records the fingerprint, and a second one finds nothing left to do. -/
theorem reconcile_idempotent_links_once :
    let creds : ConfigObject := .secret { name := some "creds", ns := some "data" } none
    let w : Workload :=
      { kind := .statefulSet,
        metadata := { name := some "db", ns := some "data",
                      annotations := some (Dict.empty.insert Workload.optInKey "true") },
        template := some { spec := some { containers := [{ envFrom := [{ secretRef := some "creds" }] }] } } }
    let s : MemoryStore :=
      { workloads := [(⟨.statefulSet, "data", "db"⟩, w)],
        configs := [(⟨.secret, "data", "creds"⟩, creds)] }
    let s' := ((reconcile .statefulSet "data" "db" : StateM MemoryStore _).run s).2
    s.WellFormed ∧ ((reconcile .statefulSet "data" "db" : StateM MemoryStore _).run s).1 = .ok () ∧
      (reconcile .statefulSet "data" "db" : StateM MemoryStore _).run s' = pure (.ok (), s') := by
  intro creds w s s'
  have hwf : s.WellFormed := ⟨⟨by decide, by decide⟩, ⟨by decide, by decide⟩⟩
  have hstored : Table.lookup w.key s.workloads = some w := by decide
  have hactive : w.lifecycle = .active := by decide
  have hok : ((reconcile .statefulSet "data" "db" : StateM MemoryStore _).run s).1 = .ok () := by
    rw [reconcile_run, show s.workload? .statefulSet "data" "db" = some w by decide]
    dsimp only
    rw [handleWorkload_of_active hactive]
    exact handleActive_ok_of_no_failures hwf (show w.metadata.ns = some "data" from rfl) hstored
      ⟨rfl, rfl, rfl, rfl⟩ (by decide)
  exact ⟨hwf, hok, reconcile_idempotent s hwf .statefulSet "data" "db" hok⟩

end ConfigRollout
