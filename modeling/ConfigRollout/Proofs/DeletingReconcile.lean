import ConfigRollout.Proofs.Handler

/-!
# What a deleting reconcile leaves

Over a well-formed store, a deleting reconcile of a workload `w` touches two things only: the
objects of `w`'s namespace whose link `w` owns, and `w` itself.

* On success, every such object has lost that link and nothing else, every other object is as
  it was (`config?_handleDeleting`), and `w` is stored without the rollout finalizer, written
  only when it had one (`workload?_handleDeleting`).
* On failure (a failed list, a refused unlink, a refused workload write, or no namespace) the
  workloads are as they were (`handleDeleting_error`).

Whatever the outcome, the only workload write removes the finalizer (`workloads_handleDeleting`):
it never writes a fingerprint and never adds the finalizer. `handleDeleting_ok_iff` says when a
deleting reconcile succeeds.
-/

set_option autoImplicit false

namespace ConfigRollout

open Reconcile

namespace Workload

/-- Removing the finalizer changes a workload exactly when it has the finalizer. -/
theorem removeFinalizer_eq_self_iff (w : Workload) : w.removeFinalizer = w ↔ w.hasFinalizer = false := by
  constructor
  · intro h
    rw [← h]
    exact hasFinalizer_removeFinalizer w
  · intro h
    simp [removeFinalizer, h]

/-- With the finalizer, removing it keeps every other finalizer in order and nothing else
changes. -/
theorem removeFinalizer_of_hasFinalizer (w : Workload) (h : w.hasFinalizer = true) :
    w.removeFinalizer =
      { w with metadata := { w.metadata with finalizers := some (w.finalizerList.filter (· != finalizerName)) } } := by
  simp [removeFinalizer, h]

end Workload

namespace MemoryStore

/-- A stored object as a successful deleting reconcile of a workload leaves it: unlinked when it
is of the workload's namespace and the workload owns its link, else as it was. -/
def afterDeleting (w : Workload) (o : ConfigObject) : ConfigObject :=
  if o.key.ns = w.metadata.nsOrEmpty ∧ o.ownsLink w.metadata.nameAny w.kind.name = true then
    (o.removeOwnerLink w.metadata.nameAny).written
  else o

/-- The listing of a successful reconcile: no list failed. -/
theorem existingAnswer_eq_error {s : MemoryStore} {ns owner : String} {kind : WorkloadKind} {e : RollError}
    (h : s.existingAnswer ns owner kind = .error e) : ∃ l, e = .listChildren l := by
  unfold existingAnswer at h
  dsimp only at h
  split at h
  · cases h
  · cases h
    exact ⟨_, rfl⟩

/-- The existing children sit under their keys, each under its own. -/
theorem WellFormed.removeLinks_ownedBy_run {s : MemoryStore} (hwf : s.WellFormed) (ns owner : String) (kind : WorkloadKind) :
    (removeLinks owner (s.ownedBy ns owner kind) : StateM MemoryStore _).run s =
      pure (if (s.ownedBy ns owner kind).any (s.unlinkFails owner) then
              .error (.removeReferences (((s.ownedBy ns owner kind).filter (s.unlinkFails owner)).map
                injectedChildError))
            else .ok (),
        (s.ownedBy ns owner kind).foldl (unlinkStep owner) s) :=
  removeLinks_run owner s _ (fun _ he => (hwf.mem_ownedBy_iff.mp he).1) (hwf.nodup_ownedBy_keys ns owner kind)

end MemoryStore

open MemoryStore

section Deleting

variable {s : MemoryStore} {w : Workload}

/-- A successful deleting reconcile had a namespace to work in. -/
theorem ns_of_handleDeleting_ok (hok : (((handleDeleting w).run : StateM MemoryStore _).run s).1 = .ok ()) :
    ∃ ns, w.metadata.ns = some ns := by
  cases hns : w.metadata.ns with
  | none =>
      rw [handleDeleting_of_no_namespace w hns s] at hok
      cases hok
  | some ns => exact ⟨ns, rfl⟩

/-- A successful deleting reconcile, as a fold: no unlink was refused, and the store is the one
that unlinking the existing children leaves, with the workload committed without its finalizer
when it had one. -/
theorem handleDeleting_ok_folds (hwf : s.WellFormed)
    (hok : (((handleDeleting w).run : StateM MemoryStore _).run s).1 = .ok ()) :
    let existing := s.ownedBy w.metadata.nsOrEmpty w.metadata.nameAny w.kind
    existing.any (s.unlinkFails w.metadata.nameAny) = false ∧
      (((handleDeleting w).run : StateM MemoryStore _).run s).2 =
        let t := existing.foldl (unlinkStep w.metadata.nameAny) s
        if w.removeFinalizer = w then t else t.commitWorkload w.removeFinalizer := by
  obtain ⟨ns, hns⟩ := ns_of_handleDeleting_ok hok
  obtain ⟨existing, hE, hlinks, hstate⟩ := handleDeleting_ok w hns s hok
  obtain ⟨-, rfl⟩ := (existingAnswer_eq_ok_iff ns _ _ existing).mp hE
  rw [hwf.removeLinks_ownedBy_run] at hlinks hstate
  rw [nsOrEmpty_of_ns hns]
  -- a refused unlink would have failed the run
  cases hu : (s.ownedBy ns w.metadata.nameAny w.kind).any (s.unlinkFails w.metadata.nameAny)
  · simp only [hu, Bool.false_eq_true, if_false] at hstate
    exact ⟨hu, hstate⟩
  · simp only [hu, if_true] at hlinks
    cases hlinks

/-- After a successful deleting reconcile every stored object is as `afterDeleting` says. -/
theorem config?_handleDeleting (hwf : s.WellFormed)
    (hok : (((handleDeleting w).run : StateM MemoryStore _).run s).1 = .ok ()) (k : ConfigKey) :
    (((handleDeleting w).run : StateM MemoryStore _).run s).2.config? k = (s.config? k).map (afterDeleting w) := by
  obtain ⟨hu, hstate⟩ := handleDeleting_ok_folds hwf hok
  set n := w.metadata.nameAny with hn
  set existing := s.ownedBy w.metadata.nsOrEmpty n w.kind
  have hex : ∀ e ∈ existing, s.config? e.key = some e := fun e he => (hwf.mem_ownedBy_iff.mp he).1
  have hexk : (existing.map ConfigObject.key).Nodup := hwf.nodup_ownedBy_keys _ _ _
  -- the workload write leaves the config objects alone
  have hconf : (((handleDeleting w).run : StateM MemoryStore _).run s).2.config? k =
      (existing.foldl (unlinkStep n) s).config? k := by
    rw [hstate]
    dsimp only
    split <;> rfl
  rw [hconf]
  rcases hk : s.config? k with _ | o
  · -- nothing stored: the fold does not touch the key
    have hno : k ∉ existing.map ConfigObject.key := key_not_mem_of_none hex hk
    rw [unlinkStep, config?_foldl_editStep_of_not_mem _ _ _ (keepsKey_removeOwnerLink n) _ _ hno, hk]
    rfl
  · obtain rfl : o.key = k := hwf.key_of_config? hk
    simp only [Option.map_some, afterDeleting]
    rw [← hn]
    by_cases hown : o.key.ns = w.metadata.nsOrEmpty ∧ o.ownsLink n w.kind.name = true
    · -- an owned object is unlinked, and its unlink was not refused
      have hmem : o ∈ existing := hwf.mem_ownedBy_iff.mpr ⟨hk, hown⟩
      have hkey : o.hasLinkKey n = true := ConfigObject.hasLinkKey_of_ownsLink hown.2
      have hup : s.updateFails o = false := by
        simpa [unlinkFails, hkey] using (List.any_eq_false.mp hu) o hmem
      rw [unlinkStep, config?_foldl_editStep_of_mem _ _ _ (keepsKey_removeOwnerLink n) _ _ hexk hmem]
      simp [writes, hkey, hup, hown]
    · -- any other object is no existing child, and no existing child shares its key
      have hno : o.key ∉ existing.map ConfigObject.key := by
        intro hmem
        obtain ⟨-, hns, howns⟩ := hwf.mem_ownedBy_iff.mp (mem_of_key_mem hex hk hmem)
        exact hown ⟨hns, howns⟩
      rw [unlinkStep, config?_foldl_editStep_of_not_mem _ _ _ (keepsKey_removeOwnerLink n) _ _ hno, hk]
      simp [hown]

/-- After a successful deleting reconcile of a stored workload, its key holds it without the
finalizer, written when it had one, else as it was. -/
theorem workload?_handleDeleting (hwf : s.WellFormed) (hstored : Table.lookup w.key s.workloads = some w)
    (hok : (((handleDeleting w).run : StateM MemoryStore _).run s).1 = .ok ()) :
    (((handleDeleting w).run : StateM MemoryStore _).run s).2.workload? w.kind w.metadata.nsOrEmpty
      w.metadata.nameAny = some (if w.hasFinalizer then w.removeFinalizer.written else w) := by
  obtain ⟨-, hstate⟩ := handleDeleting_ok_folds hwf hok
  rw [hstate]
  dsimp only
  by_cases hf : w.hasFinalizer = true
  · have hne : w.removeFinalizer ≠ w := by
      rw [ne_eq, Workload.removeFinalizer_eq_self_iff, hf]
      decide
    rw [if_neg hne, workload?_commitWorkload, Workload.key_removeFinalizer]
    simp [hf, Workload.key]
  · have heq : w.removeFinalizer = w := (Workload.removeFinalizer_eq_self_iff w).mpr (by simpa using hf)
    simpa [heq, hf, workload?, unlinkStep, Workload.key] using hstored

/-- When a deleting reconcile of a stored workload succeeds: it has a namespace, no list fails,
no unlink that is needed is refused, and the workload needs no write or workload writes are
accepted. -/
theorem handleDeleting_ok_iff (hwf : s.WellFormed) {ns : String} (hns : w.metadata.ns = some ns)
    (hstored : Table.lookup w.key s.workloads = some w) :
    (((handleDeleting w).run : StateM MemoryStore _).run s).1 = .ok () ↔
      (∀ k, k ∉ s.failingLists) ∧
      (s.ownedBy ns w.metadata.nameAny w.kind).any (s.unlinkFails w.metadata.nameAny) = false ∧
      (w.hasFinalizer = false ∨ s.failWorkloadUpdates = false) := by
  rw [handleDeleting_run w hns s]
  by_cases hL : ∀ k, k ∉ s.failingLists
  · rw [existingAnswer_of_lists ns _ _ hL]
    dsimp only
    rw [hwf.removeLinks_ownedBy_run]
    cases hu : (s.ownedBy ns w.metadata.nameAny w.kind).any (s.unlinkFails w.metadata.nameAny)
    · simp only [Bool.false_eq_true, if_false]
      -- every unlink was accepted; what is left is the workload write
      split
      · rename_i heq
        cases heq
      · rename_i t heq
        cases heq
        by_cases hf : w.hasFinalizer = true
        · have hne : w.removeFinalizer ≠ w := by
            rw [ne_eq, Workload.removeFinalizer_eq_self_iff, hf]
            decide
          have hkey : Table.lookup w.removeFinalizer.key
              ((s.ownedBy ns w.metadata.nameAny w.kind).foldl (unlinkStep w.metadata.nameAny) s).workloads =
                some w := by
            simpa [unlinkStep] using hstored
          rw [if_neg hne, writeWorkload_of_stored _ hkey (by simp [Workload.removeFinalizer, hf])]
          simp only [unlinkStep, failWorkloadUpdates_foldl_editStep]
          cases hw : s.failWorkloadUpdates
          · exact iff_of_true rfl (by simp [hL])
          · exact iff_of_false (fun h => by cases h) (by simp [hf])
        · have heq : w.removeFinalizer = w :=
            (Workload.removeFinalizer_eq_self_iff w).mpr (by simpa using hf)
          rw [if_pos heq]
          exact iff_of_true rfl (by simp [hL, hf])
    · simp [hL]
  · cases hE : s.existingAnswer ns w.metadata.nameAny w.kind with
    | error _ => simp [hL]
    | ok l => exact absurd ((existingAnswer_eq_ok_iff ns _ _ _).mp hE).1 hL

/-- A failed deleting reconcile failed on a list, an unlink, the workload write or a missing
namespace, and left the workloads as they were. -/
theorem handleDeleting_error (hwf : s.WellFormed) {e : RollError}
    (h : (((handleDeleting w).run : StateM MemoryStore _).run s).1 = .error e) :
    ((∃ l, e = .listChildren l) ∨ (∃ l, e = .removeReferences l) ∨
      (∃ kind ns name cause, e = .workloadUpdate kind ns name cause) ∨ (∃ key, e = .missingKey key)) ∧
    (((handleDeleting w).run : StateM MemoryStore _).run s).2.workloads = s.workloads := by
  cases hns : w.metadata.ns with
  | none =>
      rw [handleDeleting_of_no_namespace w hns s] at h ⊢
      cases h
      exact ⟨.inr (.inr (.inr ⟨_, rfl⟩)), rfl⟩
  | some ns =>
      rw [handleDeleting_run w hns s] at h ⊢
      cases hE : s.existingAnswer ns w.metadata.nameAny w.kind with
      | error e' =>
          simp only [hE] at h ⊢
          cases h
          exact ⟨.inl (existingAnswer_eq_error hE), rfl⟩
      | ok existing =>
          obtain ⟨-, rfl⟩ := (existingAnswer_eq_ok_iff ns _ _ existing).mp hE
          simp only [hE] at h ⊢
          have hrun := hwf.removeLinks_ownedBy_run ns w.metadata.nameAny w.kind
          rcases hlinks : (removeLinks w.metadata.nameAny (s.ownedBy ns w.metadata.nameAny w.kind) :
              StateM MemoryStore _).run s with ⟨r, t⟩
          rw [hlinks] at hrun
          -- the unlinking touched no workload
          have ht : t.workloads = s.workloads := by
            rw [show t = (s.ownedBy ns w.metadata.nameAny w.kind).foldl (unlinkStep w.metadata.nameAny) s from
              congrArg Prod.snd hrun]
            simp [unlinkStep]
          rcases r with e' | ⟨⟩
          · -- a refused unlink
            simp only [hlinks] at h ⊢
            cases h
            refine ⟨.inr (.inl ?_), ht⟩
            have hr := congrArg Prod.fst hrun
            by_cases hu : (s.ownedBy ns w.metadata.nameAny w.kind).any (s.unlinkFails w.metadata.nameAny) = true
            · simp only [hu, if_true] at hr
              cases hr
              exact ⟨_, rfl⟩
            · simp only [hu, Bool.false_eq_true, if_false] at hr
              cases hr
          · simp only [hlinks] at h ⊢
            by_cases hd : w.removeFinalizer = w
            · simp only [hd, if_true] at h
              cases h
            · -- a refused workload write
              simp only [hd, if_false] at h ⊢
              rcases writeWorkload_cases t w.removeFinalizer with hw | ⟨e'', hw⟩
              · rw [hw] at h
                cases h
              · rw [hw] at h ⊢
                cases h
                exact ⟨.inr (.inr (.inl ⟨_, _, _, _, rfl⟩)), ht⟩

/-- Whatever its outcome, a deleting reconcile writes the workload at most once, and only to
remove the finalizer it had. -/
theorem workloads_handleDeleting (hwf : s.WellFormed) :
    (((handleDeleting w).run : StateM MemoryStore _).run s).2.workloads = s.workloads ∨
      (w.hasFinalizer = true ∧ (((handleDeleting w).run : StateM MemoryStore _).run s).2.workloads =
        Table.upsert w.key w.removeFinalizer.written s.workloads) := by
  rcases hr : (((handleDeleting w).run : StateM MemoryStore _).run s).1 with e | ⟨⟩
  · exact .inl (handleDeleting_error hwf hr).2
  · obtain ⟨-, hstate⟩ := handleDeleting_ok_folds hwf hr
    rw [hstate]
    dsimp only
    by_cases hd : w.removeFinalizer = w
    · rw [if_pos hd]
      exact .inl (by simp [unlinkStep])
    · rw [if_neg hd]
      refine .inr ⟨?_, by simp [commitWorkload, unlinkStep]⟩
      by_contra hf
      exact hd ((Workload.removeFinalizer_eq_self_iff w).mpr (by simpa using hf))

end Deleting

/-! ## The contract of a deleting reconcile -/

/-- A deleting reconcile of a stored workload `w`, over a well-formed store. Whatever its
outcome, the only workload write removes every copy of the rollout finalizer and keeps the
rest, in order: it writes no fingerprint and adds no finalizer. When it succeeds, every object
of `w`'s namespace whose link `w` owned has lost exactly that link (its version moved on with
the write), every other object is as it was, and `w` is stored without the finalizer, written
only when it had one. When it fails, the failure is a list, an unlink, the workload write or a
missing namespace, and `w` is stored as it was, finalizer included. -/
theorem handleWorkload_deleting_contract (s : MemoryStore) (hwf : s.WellFormed) (w : Workload)
    (hstored : Table.lookup w.key s.workloads = some w) (hdel : w.lifecycle = .deleting) :
    let r := (handleWorkload w : StateM MemoryStore _).run s
    let ns := w.metadata.nsOrEmpty
    let n := w.metadata.nameAny
    let stripped : Workload :=
      { w with metadata := { w.metadata with finalizers := some (w.finalizerList.filter (· != finalizerName)) } }
    (r.2.workloads = s.workloads ∨
      (w.hasFinalizer = true ∧ r.2.workloads = Table.upsert w.key stripped.written s.workloads)) ∧
    (r.1 = .ok () →
      (∀ k, r.2.config? k = (s.config? k).map (fun o =>
        if o.key.ns = ns ∧ o.ownsLink n w.kind.name = true then (o.removeOwnerLink n).written else o)) ∧
      r.2.workload? w.kind ns n = some (if w.hasFinalizer then stripped.written else w)) ∧
    (∀ e, r.1 = .error e →
      ((∃ l, e = .listChildren l) ∨ (∃ l, e = .removeReferences l) ∨
        (∃ kind ns name cause, e = .workloadUpdate kind ns name cause) ∨ (∃ key, e = .missingKey key)) ∧
      r.2.workload? w.kind ns n = some w) := by
  rw [handleWorkload_of_deleting hdel]
  dsimp only
  refine ⟨?_, fun hok => ⟨fun k => config?_handleDeleting hwf hok k, ?_⟩, fun e he => ⟨(handleDeleting_error hwf he).1, ?_⟩⟩
  · rcases workloads_handleDeleting hwf with h | ⟨hf, h⟩
    · exact .inl h
    · exact .inr ⟨hf, by rw [h, Workload.removeFinalizer_of_hasFinalizer w hf]⟩
  · rw [workload?_handleDeleting hwf hstored hok]
    by_cases hf : w.hasFinalizer = true
    · rw [if_pos hf, if_pos hf, Workload.removeFinalizer_of_hasFinalizer w hf]
    · rw [if_neg hf, if_neg hf]
  · simpa [workload?, (handleDeleting_error hwf he).2, Workload.key] using hstored

/-- A deleting workload whose link one ConfigMap carries, with another finalizer beside its own: the
run strips the link and removes only its own finalizer. -/
theorem handleWorkload_deleting_contract_strips :
    let app : ConfigObject :=
      .configMap { name := some "app", ns := some "prod",
                   annotations := some (Dict.empty.insert (Ownership.ownerKey "web") "Deployment") } none
    let w : Workload :=
      { kind := .deployment,
        metadata := { name := some "web", ns := some "prod", deletionTimestamp := some "2024-01-01T00:00:00Z",
                      annotations := some (Dict.empty.insert Workload.optInKey "true"),
                      finalizers := some [finalizerName, "keep"] } }
    let s : MemoryStore :=
      { workloads := [(⟨.deployment, "prod", "web"⟩, w)], configs := [(⟨.configMap, "prod", "app"⟩, app)] }
    let r := (handleWorkload w : StateM MemoryStore _).run s
    let ns := w.metadata.nsOrEmpty
    let n := w.metadata.nameAny
    let stripped : Workload :=
      { w with metadata := { w.metadata with finalizers := some (w.finalizerList.filter (· != finalizerName)) } }
    s.WellFormed ∧ Table.lookup w.key s.workloads = some w ∧ w.lifecycle = .deleting ∧
    (r.2.workloads = s.workloads ∨
      (w.hasFinalizer = true ∧ r.2.workloads = Table.upsert w.key stripped.written s.workloads)) ∧
    (r.1 = .ok () →
      (∀ k, r.2.config? k = (s.config? k).map (fun o =>
        if o.key.ns = ns ∧ o.ownsLink n w.kind.name = true then (o.removeOwnerLink n).written else o)) ∧
      r.2.workload? w.kind ns n = some (if w.hasFinalizer then stripped.written else w)) ∧
    (∀ e, r.1 = .error e →
      ((∃ l, e = .listChildren l) ∨ (∃ l, e = .removeReferences l) ∨
        (∃ kind ns name cause, e = .workloadUpdate kind ns name cause) ∨ (∃ key, e = .missingKey key)) ∧
      r.2.workload? w.kind ns n = some w) := by
  intro app w s r ns n stripped
  have hwf : s.WellFormed := ⟨⟨by decide, by decide⟩, ⟨by decide, by decide⟩⟩
  have hstored : Table.lookup w.key s.workloads = some w := by decide
  have hdel : w.lifecycle = .deleting := by decide
  exact ⟨hwf, hstored, hdel, handleWorkload_deleting_contract s hwf w hstored hdel⟩

end ConfigRollout
