import ConfigRollout.Finalizer

/-!
# Lifecycle of a workload

Where a workload stands decides what a reconcile does with it. A workload that has not opted
in is `ignored`, unless it still carries the finalizer: then it opted out while its links may
remain, and it is `deleting`. An opted-in workload is `deleting` once its deletion was
requested, and `active` otherwise.
-/

set_option autoImplicit false

namespace ConfigRollout

/-- Where a workload stands. -/
inductive Lifecycle where
  /-- Not opted in and nothing to clean up. -/
  | ignored
  /-- Opted in and not being deleted. -/
  | active
  /-- Being deleted, or opted out while links may remain. -/
  | deleting
  deriving DecidableEq, Repr, Inhabited

/-- The name of a lifecycle state. -/
def Lifecycle.name : Lifecycle → String
  | .ignored => "Ignored"
  | .active => "Active"
  | .deleting => "Deleting"

/-- Where a workload stands. -/
def Workload.lifecycle (w : Workload) : Lifecycle :=
  if !w.optedIn then
    if w.hasFinalizer then .deleting else .ignored
  else if w.metadata.markedForDeletion then .deleting
  else .active

end ConfigRollout
