import ConfigRollout.Proofs.Links
import ConfigRollout.Reconcile.Handler

/-!
# A reconcile over the in-memory store, step by step

Each path of the handler is stated once as an equation over the in-memory store, with its reads
replaced by their answers (`MemoryStore.existingAnswer`, `MemoryStore.currentAnswer`):

* an active reconcile (`handleActive_run`) stops at the first failed read, leaving the store
  as it was; otherwise it updates the links, and writes the workload only when its desired form
  (fingerprint and finalizer) differs from it;
* a deleting reconcile (`handleDeleting_run`) stops at a failed list; otherwise it unlinks every
  existing child, and writes the workload only when it carried the finalizer.

From these, `handleActive_ok` and `handleDeleting_ok` invert a successful run: which answers the
reads gave, and which store it left. A workload write either fails and changes nothing, or is
accepted (`writeWorkload_cases`).
-/

set_option autoImplicit false

namespace ConfigRollout

open Reconcile

namespace Workload

/-- Adding the finalizer keeps the key of a workload. -/
@[simp] theorem key_addFinalizer (w : Workload) : w.addFinalizer.key = w.key := by
  unfold addFinalizer; split <;> rfl

/-- Removing the finalizer keeps the key of a workload. -/
@[simp] theorem key_removeFinalizer (w : Workload) : w.removeFinalizer.key = w.key := by
  unfold removeFinalizer; split <;> rfl

@[simp] theorem key_setConfigHash (w : Workload) (hash : String) : (w.setConfigHash hash).key = w.key := rfl

/-- The desired form of a workload has its key. -/
@[simp] theorem key_desired (w : Workload) (current : List Binding) : (Workload.desired w current).key = w.key := by
  simp [Workload.desired]

@[simp] theorem kind_desired (w : Workload) (current : List Binding) : (Workload.desired w current).kind = w.kind := by
  simp only [Workload.desired, addFinalizer]
  split <;> rfl

@[simp] theorem metadata_desired_name (w : Workload) (current : List Binding) :
    (Workload.desired w current).metadata.nameAny = w.metadata.nameAny := by
  simp only [Workload.desired, addFinalizer]
  split <;> simp [setConfigHash, ObjectMeta.nameAny]

@[simp] theorem metadata_desired_ns (w : Workload) (current : List Binding) :
    (Workload.desired w current).metadata.nsOrEmpty = w.metadata.nsOrEmpty := by
  simp only [Workload.desired, addFinalizer]
  split <;> simp [setConfigHash, ObjectMeta.nsOrEmpty]

@[simp] theorem version_desired (w : Workload) (current : List Binding) :
    (Workload.desired w current).metadata.resourceVersion = w.metadata.resourceVersion := by
  simp only [Workload.desired, Workload.addFinalizer]
  split <;> rfl

end Workload

/-- A namespace that is present is the namespace or empty one. -/
theorem nsOrEmpty_of_ns {md : ObjectMeta} {ns : String} (h : md.ns = some ns) : md.nsOrEmpty = ns := by
  simp [ObjectMeta.nsOrEmpty, h]

/-! ## The path a workload takes -/

section Path

variable {m : Type → Type} [Monad m] [ObjectStore m] [EventSink m] {w : Workload}

/-- An active workload is reconciled by the active handler. -/
theorem handleWorkload_of_active (h : w.lifecycle = .active) :
    (handleWorkload w : m _) = (handleActive w).run := by
  simp only [handleWorkload, h]

/-- A deleting workload is reconciled by the deleting handler. -/
theorem handleWorkload_of_deleting (h : w.lifecycle = .deleting) :
    (handleWorkload w : m _) = (handleDeleting w).run := by
  simp only [handleWorkload, h]

/-- An ignored workload is reconciled by doing nothing, successfully. -/
theorem handleWorkload_of_ignored (h : w.lifecycle = .ignored) :
    (handleWorkload w : m _) = pure (.ok ()) := by
  simp only [handleWorkload, h]

end Path

/-! ## Writing the workload -/

/-- A workload write over the in-memory store: accepted as a commit, or failed as a workload
update with the store unchanged. -/
theorem writeWorkload_cases (s : MemoryStore) (d : Workload) :
    (writeWorkload d : StateM MemoryStore _).run s = pure (.ok (), s.commitWorkload d) ∨
      ∃ e, (writeWorkload d : StateM MemoryStore _).run s =
        pure (.error (.workloadUpdate d.kind.name d.metadata.nsOrEmpty d.metadata.nameAny e), s) := by
  rcases MemoryStore.updateWorkload_cases s d with ⟨e, he⟩ | he
  · exact .inr ⟨e, by simp [writeWorkload, he]⟩
  · exact .inl (by simp [writeWorkload, he])

/-- A workload write of a workload stored at its version: refused exactly when workload updates
fail. -/
theorem writeWorkload_of_stored (s : MemoryStore) {d stored : Workload}
    (h : Table.lookup d.key s.workloads = some stored)
    (hv : stored.metadata.resourceVersion = d.metadata.resourceVersion) :
    (writeWorkload d : StateM MemoryStore _).run s =
      if s.failWorkloadUpdates then
        pure (.error (.workloadUpdate d.kind.name d.metadata.nsOrEmpty d.metadata.nameAny
          (injectedFailure d.key.name)), s)
      else pure (.ok (), s.commitWorkload d) := by
  by_cases hf : s.failWorkloadUpdates = true <;>
    simp [writeWorkload, MemoryStore.updateWorkload_of_stored s h hv, hf]

/-! ## The active path -/

/-- Without a namespace, an active reconcile fails on the missing key and changes nothing. -/
theorem handleActive_of_no_namespace (w : Workload) (hns : w.metadata.ns = none) (s : MemoryStore) :
    ((handleActive w).run : StateM MemoryStore _).run s = pure (.error (.missingKey ".metadata.namespace"), s) := by
  simp only [handleActive, requireNamespace, hns, ExceptT.run_bind, ExceptT.run_mk]
  rfl

/-- An active reconcile over the in-memory store: a failed read ends it with the store
unchanged; then the links are updated, and a failed update ends it; then the workload is
written unless it is already as desired. -/
theorem handleActive_run (w : Workload) {ns : String} (hns : w.metadata.ns = some ns) (s : MemoryStore) :
    ((handleActive w).run : StateM MemoryStore _).run s =
      match s.existingAnswer ns w.metadata.nameAny w.kind, s.currentAnswer ns w.references with
      | .error e, _ => pure (.error e, s)
      | .ok _, .error e => pure (.error e, s)
      | .ok existing, .ok current =>
        match (updateLinks w.metadata.nameAny w.kind existing current : StateM MemoryStore _).run s with
        | (.error e, t) => pure (.error e, t)
        | (.ok (), t) =>
          if Workload.desired w current = w then pure (.ok (), t)
          else (writeWorkload (Workload.desired w current) : StateM MemoryStore _).run t := by
  simp only [handleActive, requireNamespace, hns]
  simp only [ExceptT.run_bind, ExceptT.run_mk, listsRefused_memory, fetchesRefused_memory]
  cases he : s.existingAnswer ns w.metadata.nameAny w.kind with
  | error e => simp [existingChildren_run, he]
  | ok existing =>
      cases hc : s.currentAnswer ns w.references with
      | error e => simp [existingChildren_run, currentChildren_run, he, hc]
      | ok current =>
          simp only [StateT.run_bind, existingChildren_run, currentChildren_run, he, hc, pure_bind]
          rcases hlinks : (updateLinks w.metadata.nameAny w.kind existing current : StateM MemoryStore _).run s
            with ⟨_ | ⟨⟩, t⟩
          · rfl
          · by_cases hd : Workload.desired w current = w
            · simp only [hd, if_true]
              rfl
            · simp only [hd, if_false]
              rfl

/-- A successful active reconcile: both reads answered, every link update was accepted, and
the store is the one the links left, with the desired workload committed when it differed. -/
theorem handleActive_ok (w : Workload) {ns : String} (hns : w.metadata.ns = some ns) (s : MemoryStore)
    (hok : (((handleActive w).run : StateM MemoryStore _).run s).1 = .ok ()) :
    ∃ existing current, s.existingAnswer ns w.metadata.nameAny w.kind = .ok existing ∧
      s.currentAnswer ns w.references = .ok current ∧
      ((updateLinks w.metadata.nameAny w.kind existing current : StateM MemoryStore _).run s).1 = .ok () ∧
      (((handleActive w).run : StateM MemoryStore _).run s).2 =
        let t := ((updateLinks w.metadata.nameAny w.kind existing current : StateM MemoryStore _).run s).2
        if Workload.desired w current = w then t else t.commitWorkload (Workload.desired w current) := by
  rw [handleActive_run w hns s] at hok ⊢
  cases he : s.existingAnswer ns w.metadata.nameAny w.kind with
  | error e => simp [he] at hok
  | ok existing =>
      cases hc : s.currentAnswer ns w.references with
      | error e => simp [he, hc] at hok
      | ok current =>
          simp only [he, hc] at hok ⊢
          rcases hlinks : (updateLinks w.metadata.nameAny w.kind existing current : StateM MemoryStore _).run s
            with ⟨_ | ⟨⟩, t⟩
          · simp [hlinks] at hok
          · simp only [hlinks] at hok ⊢
            refine ⟨existing, current, rfl, rfl, by rw [hlinks], ?_⟩
            by_cases hd : Workload.desired w current = w
            · simp only [hd, if_true]
              rw [hlinks]
              rfl
            · simp only [hd, if_false] at hok ⊢
              rcases writeWorkload_cases t (Workload.desired w current) with hw | ⟨e, hw⟩
              · rw [hw, hlinks]
                rfl
              · rw [hw] at hok
                cases hok

/-! ## The deleting path -/

/-- Without a namespace, a deleting reconcile fails on the missing key and changes nothing. -/
theorem handleDeleting_of_no_namespace (w : Workload) (hns : w.metadata.ns = none) (s : MemoryStore) :
    ((handleDeleting w).run : StateM MemoryStore _).run s = pure (.error (.missingKey ".metadata.namespace"), s) := by
  simp only [handleDeleting, requireNamespace, hns, ExceptT.run_bind, ExceptT.run_mk]
  rfl

/-- A deleting reconcile over the in-memory store: a failed list ends it with the store
unchanged; then every existing child is unlinked, and a failed unlink ends it; then the
finalizer is removed, with a write only when the workload carried it. -/
theorem handleDeleting_run (w : Workload) {ns : String} (hns : w.metadata.ns = some ns) (s : MemoryStore) :
    ((handleDeleting w).run : StateM MemoryStore _).run s =
      match s.existingAnswer ns w.metadata.nameAny w.kind with
      | .error e => pure (.error e, s)
      | .ok existing =>
        match (removeLinks w.metadata.nameAny existing : StateM MemoryStore _).run s with
        | (.error e, t) => pure (.error e, t)
        | (.ok (), t) =>
          if w.removeFinalizer = w then pure (.ok (), t)
          else (writeWorkload w.removeFinalizer : StateM MemoryStore _).run t := by
  simp only [handleDeleting, requireNamespace, hns]
  simp only [ExceptT.run_bind, ExceptT.run_mk]
  cases he : s.existingAnswer ns w.metadata.nameAny w.kind with
  | error e => simp [existingChildren_run, he]
  | ok existing =>
      simp only [StateT.run_bind, existingChildren_run, he, pure_bind]
      rcases hlinks : (removeLinks w.metadata.nameAny existing : StateM MemoryStore _).run s with ⟨_ | ⟨⟩, t⟩
      · rfl
      · by_cases hd : w.removeFinalizer = w
        · simp only [hd, if_true]
          rfl
        · simp only [hd, if_false]
          rfl

/-- A successful deleting reconcile: the list answered, every unlink was accepted, and the store
is the one the unlinking left, with the workload committed without its finalizer when it had
one. -/
theorem handleDeleting_ok (w : Workload) {ns : String} (hns : w.metadata.ns = some ns) (s : MemoryStore)
    (hok : (((handleDeleting w).run : StateM MemoryStore _).run s).1 = .ok ()) :
    ∃ existing, s.existingAnswer ns w.metadata.nameAny w.kind = .ok existing ∧
      ((removeLinks w.metadata.nameAny existing : StateM MemoryStore _).run s).1 = .ok () ∧
      (((handleDeleting w).run : StateM MemoryStore _).run s).2 =
        let t := ((removeLinks w.metadata.nameAny existing : StateM MemoryStore _).run s).2
        if w.removeFinalizer = w then t else t.commitWorkload w.removeFinalizer := by
  rw [handleDeleting_run w hns s] at hok ⊢
  cases he : s.existingAnswer ns w.metadata.nameAny w.kind with
  | error e => simp [he] at hok
  | ok existing =>
      simp only [he] at hok ⊢
      rcases hlinks : (removeLinks w.metadata.nameAny existing : StateM MemoryStore _).run s with ⟨_ | ⟨⟩, t⟩
      · simp [hlinks] at hok
      · simp only [hlinks] at hok ⊢
        refine ⟨existing, rfl, by rw [hlinks], ?_⟩
        by_cases hd : w.removeFinalizer = w
        · simp only [hd, if_true]
          rw [hlinks]
          rfl
        · simp only [hd, if_false] at hok ⊢
          rcases writeWorkload_cases t w.removeFinalizer with hw | ⟨e, hw⟩
          · rw [hw, hlinks]
            rfl
          · rw [hw] at hok
            cases hok

end ConfigRollout
