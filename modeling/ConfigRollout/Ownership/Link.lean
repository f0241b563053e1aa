import ConfigRollout.Ownership.Key
import ConfigRollout.Object.Workload
import ConfigRollout.Object.Config

/-!
# Owner links on config objects

The link of a workload named `n` on a ConfigMap or Secret is the annotation `ownerKey n`; its
value is the owner's kind. A link is valid (`hasOwnerLink`) when its value is one of the three
workload kinds. A workload of kind `K` owns the link (`ownsLink`) when the value is `K`, or
when it is no workload kind at all: such a link is stray and the workload of that name may
take it back.

`setOwnerLink` writes the link, creating a missing annotation map; `removeOwnerLink` deletes
it, and an absent map stays absent; `hasLinkKey` says whether there is a link to delete.

A change of a config object wakes up the workloads its links name (`linkedWorkloads`): the
owner of every link key, in key order, within the object's namespace.

Main statements: after `setOwnerLink` with a workload kind the link is valid
(`hasOwnerLink_setOwnerLink`) and owned by that kind (`ownsLink_setOwnerLink`).
-/

set_option autoImplicit false

namespace ConfigRollout.ConfigObject

open Ownership

/-- The value of the link of the workload of a given name. -/
def ownerLink? (o : ConfigObject) (owner : String) : Option String :=
  o.metadata.annotation? (ownerKey owner)

/-- Whether the object has a valid link of the workload of a given name. -/
def hasOwnerLink (o : ConfigObject) (owner : String) : Bool :=
  match o.ownerLink? owner with
  | some v => WorkloadKind.isName v
  | none => false

/-- Whether a workload of a name and kind owns the object's link of that name. -/
def ownsLink (o : ConfigObject) (owner : String) (kind : String) : Bool :=
  match o.ownerLink? owner with
  | some v => v == kind || !WorkloadKind.isName v
  | none => false

/-- The object with the link of a workload set to its kind. -/
def setOwnerLink (o : ConfigObject) (owner : String) (kind : String) : ConfigObject :=
  let m := o.metadata
  o.setMetadata { m with annotations := some ((m.annotations.getD Dict.empty).insert (ownerKey owner) kind) }

/-- The object without the link of a workload. -/
def removeOwnerLink (o : ConfigObject) (owner : String) : ConfigObject :=
  let m := o.metadata
  o.setMetadata { m with annotations := m.annotations.map (fun a => a.erase (ownerKey owner)) }

/-- Whether the object has an annotation for the link of a workload, whatever its value. -/
def hasLinkKey (o : ConfigObject) (owner : String) : Bool :=
  (o.ownerLink? owner).isSome

/-- After setting a link, the link of the owner names the kind set. -/
theorem ownerLink?_setOwnerLink (o : ConfigObject) (owner kind : String) :
    (o.setOwnerLink owner kind).ownerLink? owner = some kind := by
  simp [setOwnerLink, ownerLink?, ObjectMeta.annotation?]

/-- Setting a link to the name of a workload kind gives a valid link. -/
theorem hasOwnerLink_setOwnerLink (o : ConfigObject) (owner : String) (k : WorkloadKind) :
    (o.setOwnerLink owner k.name).hasOwnerLink owner = true := by
  simp [hasOwnerLink, ownerLink?_setOwnerLink, WorkloadKind.isName, WorkloadKind.ofName?_name]

/-- Setting a link to a kind makes the owner of that kind own it. -/
theorem ownsLink_setOwnerLink (o : ConfigObject) (owner : String) (k : WorkloadKind) :
    (o.setOwnerLink owner k.name).ownsLink owner k.name = true := by
  simp [ownsLink, ownerLink?_setOwnerLink]

end ConfigRollout.ConfigObject

namespace ConfigRollout

/-- A workload named by a link of a config object: a name within a namespace. Its kind is the
one of the reconciler that watches the object. -/
structure WorkloadRef where
  name : String
  ns : String
  deriving DecidableEq, Repr

/-- The workloads whose links a config object carries, within its namespace and in key order of
the link keys; none for an object without a namespace. -/
def ConfigObject.linkedWorkloads (o : ConfigObject) : List WorkloadRef :=
  match o.metadata.ns with
  | none => []
  | some ns => (Ownership.ownerNames o.metadata.annotationsOrEmpty).map (fun name => ⟨name, ns⟩)

end ConfigRollout
