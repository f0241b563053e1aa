import ConfigRollout.Data.Dict

/-!
# Object metadata

The metadata that every Kubernetes object carries, reduced to the fields that the program
reads or writes: name and name prefix, namespace, uid, resource version, annotations, labels,
finalizers and the deletion mark. A field that is absent stays `none`; an absent annotation map
and an empty one are different values, and the program keeps them apart.

The name of an object (`ObjectMeta.nameAny`) is its name, else its name prefix, else empty.
-/

set_option autoImplicit false

namespace ConfigRollout

/-- The metadata of an object. -/
structure ObjectMeta where
  /-- The object's name. -/
  name : Option String := none
  /-- The prefix from which the server makes a name. -/
  generateName : Option String := none
  /-- The namespace. -/
  ns : Option String := none
  /-- The unique identifier given by the server. -/
  uid : Option String := none
  /-- The version of the stored object. -/
  resourceVersion : Option String := none
  /-- The annotations. -/
  annotations : Option (Dict String) := none
  /-- The labels. -/
  labels : Option (Dict String) := none
  /-- The finalizers, in order. -/
  finalizers : Option (List String) := none
  /-- The time at which deletion was requested. -/
  deletionTimestamp : Option String := none
  deriving DecidableEq, Repr, Inhabited

namespace ObjectMeta

/-- The object's name, else its name prefix, else the empty string. -/
def nameAny (m : ObjectMeta) : String :=
  match m.name with
  | some n => n
  | none => m.generateName.getD ""

/-- The namespace, the empty string when there is none. -/
def nsOrEmpty (m : ObjectMeta) : String :=
  m.ns.getD ""

/-- The value of an annotation. -/
def annotation? (m : ObjectMeta) (key : String) : Option String :=
  m.annotations.bind (fun a => a.get? key)

/-- The annotation map, empty when there is none. -/
def annotationsOrEmpty (m : ObjectMeta) : Dict String :=
  m.annotations.getD Dict.empty

/-- Whether deletion of the object was requested. -/
def markedForDeletion (m : ObjectMeta) : Bool :=
  m.deletionTimestamp.isSome

/-- `namespace/name`, with an empty namespace when there is none. -/
def displayName (m : ObjectMeta) : String :=
  m.nsOrEmpty ++ "/" ++ m.nameAny

end ObjectMeta

end ConfigRollout
