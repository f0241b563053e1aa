import ConfigRollout.Reconcile.Links
import ConfigRollout.Lifecycle

/-!
# Reconciling a workload

One reconcile brings a workload and its children to the state its pod template asks for,
from what is in the store, so a failed reconcile is repaired by running it again.

An *active* workload needs a namespace. Its existing children are listed and its current
children fetched (a failed list wins over a failed fetch, and is found first, unless every
fetch is refused before it is sent while some list is not); the current
children are linked and the orphans unlinked; then the fingerprint of the current children
is written on the pod template together with the finalizer, and the workload is written back
only if that changed it.

A *deleting* workload needs a namespace too. Every existing child is unlinked, then the
finalizer is removed, and the workload is written back only if it had the finalizer.

An *ignored* workload is left alone, and so is a workload that is not stored.
-/

set_option autoImplicit false

namespace ConfigRollout.Reconcile

variable {m : Type → Type} [Monad m] [ObjectStore m] [EventSink m]

/-- The namespace of an object, which the handler needs. -/
def requireNamespace (md : ObjectMeta) : Except RollError String :=
  match md.ns with
  | some ns => .ok ns
  | none => .error (.missingKey ".metadata.namespace")

/-- Writes a workload back, reporting a failure as a failed workload update. -/
def writeWorkload (desired : Workload) : m (Except RollError Unit) := do
  match ← ObjectStore.updateWorkload desired with
  | .ok _ => pure (.ok ())
  | .error e =>
    pure (.error (.workloadUpdate desired.kind.name desired.metadata.nsOrEmpty desired.metadata.nameAny e))

/-- The workload as an active reconcile leaves it: the fingerprint of its current children on
the pod template, and the finalizer. -/
def Workload.desired (w : Workload) (current : List Binding) : Workload :=
  (w.setConfigHash (fingerprint current)).addFinalizer

/-- Reconciles an active workload. -/
def handleActive (w : Workload) : ExceptT RollError m Unit := do
  let ns ← ExceptT.mk (pure (requireNamespace w.metadata))
  let name := w.metadata.nameAny
  if let some e := listsRefused m ns then throw e
  if let some e := fetchesRefused m ns w.references then throw e
  let existing ← ExceptT.mk (existingChildren ns name w.kind)
  let current ← ExceptT.mk (currentChildren ns w.references)
  ExceptT.mk (updateLinks name w.kind existing current)
  let desired := Workload.desired w current
  if desired = w then return ()
  ExceptT.mk (writeWorkload desired)

/-- Reconciles a deleting workload. -/
def handleDeleting (w : Workload) : ExceptT RollError m Unit := do
  let ns ← ExceptT.mk (pure (requireNamespace w.metadata))
  let name := w.metadata.nameAny
  let existing ← ExceptT.mk (existingChildren ns name w.kind)
  ExceptT.mk (removeLinks name existing)
  let desired := w.removeFinalizer
  if desired = w then return ()
  ExceptT.mk (writeWorkload desired)

/-- Reconciles a workload as given, by its lifecycle state. -/
def handleWorkload (w : Workload) : m (Except RollError Unit) :=
  match w.lifecycle with
  | .ignored => pure (.ok ())
  | .active => (handleActive w).run
  | .deleting => (handleDeleting w).run

/-- Reconciles the stored workload of a kind, namespace and name; a missing one is done. -/
def reconcile (kind : WorkloadKind) (ns name : String) : m (Except RollError Unit) := do
  match ← ObjectStore.getWorkload kind ns name with
  | .error e => pure (.error e)
  | .ok none => pure (.ok ())
  | .ok (some w) => handleWorkload w

end ConfigRollout.Reconcile
