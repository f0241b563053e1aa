import ConfigRollout.Reconcile.Children
import ConfigRollout.Ownership.Orphans

/-!
# Linking and unlinking children

Every current child without a valid link of the workload gets one: the link is set to the
workload's kind and the object is written back, and an `AddWatch` event follows each success.
All current children are tried; if any write failed, the failures are reported and orphans
are left alone. Otherwise every orphan (an existing child that is not current, by identity)
loses the workload's link key: a child without that key is skipped, the others are written
back, a `RemoveWatch` event follows each success, and the failures are reported together.
-/

set_option autoImplicit false

namespace ConfigRollout.Reconcile

/-- The reason of the event that follows a new link. -/
def addWatchReason : String := "AddWatch"

/-- The reason of the event that follows a removed link. -/
def removeWatchReason : String := "RemoveWatch"

variable {m : Type → Type} [Monad m] [ObjectStore m] [EventSink m]

/-- Links one current child to its owner, unless it already has a valid link. -/
def addLink (owner : String) (kind : WorkloadKind) (child : ConfigObject) :
    m (Except ChildError Unit) := do
  if child.hasOwnerLink owner then return .ok ()
  match ← ObjectStore.updateConfig (child.setOwnerLink owner kind.name) with
  | .error e => pure (.error (.mk child.kind.name child.name e))
  | .ok _ =>
    EventSink.publish child.objectRef addWatchReason
      ("Adding watch for " ++ child.kind.name ++ " " ++ child.name)
    pure (.ok ())

/-- Removes the link of an owner from one child that has its key; a failure is answered. -/
def removeLink (owner : String) (child : ConfigObject) : m (Option ChildError) := do
  if !child.hasLinkKey owner then return none
  match ← ObjectStore.updateConfig (child.removeOwnerLink owner) with
  | .error e => pure (some (.mk child.kind.name child.name e))
  | .ok _ =>
    EventSink.publish child.objectRef removeWatchReason
      ("Removing watch for " ++ child.kind.name ++ " " ++ child.name)
    pure none

/-- Removes the link of an owner from every child that has its key. -/
def removeLinks (owner : String) (children : List ConfigObject) : m (Except RollError Unit) := do
  let failures ← children.mapM (removeLink owner)
  let errors := failures.filterMap id
  pure (if errors.isEmpty then .ok () else .error (.removeReferences errors))

/-- Links every current child, and then unlinks the orphans among the existing children. -/
def updateLinks (owner : String) (kind : WorkloadKind) (existing : List ConfigObject)
    (current : List Binding) : m (Except RollError Unit) := do
  let results ← current.mapM (fun b => addLink owner kind b.object)
  let (errors, _) := splitResults results
  if !errors.isEmpty then return .error (.updateChildren errors)
  removeLinks owner (orphans existing current)

end ConfigRollout.Reconcile
