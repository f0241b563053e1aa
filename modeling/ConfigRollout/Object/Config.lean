import ConfigRollout.Object.Meta

/-!
# ConfigMaps and Secrets

A config object is a ConfigMap, whose data maps keys to text, or a Secret, whose data maps
keys to bytes. Nothing else of their content matters to the program: binary data of a ConfigMap
and the write-only string data of a Secret never enter a fingerprint.

An object is identified among others of its kind by its uid, or by its name when it has no uid
(`ConfigObject.identity`).
-/

set_option autoImplicit false

namespace ConfigRollout

/-- The two kinds of object that carry configuration. ConfigMaps come first wherever both
kinds are listed. -/
inductive ConfigKind where
  | configMap
  | secret
  deriving DecidableEq, Repr, Inhabited

namespace ConfigKind

/-- The kind's name in the API. -/
def name : ConfigKind → String
  | .configMap => "ConfigMap"
  | .secret => "Secret"

/-- The kind of an API name. -/
def ofName? : String → Option ConfigKind
  | "ConfigMap" => some .configMap
  | "Secret" => some .secret
  | _ => none

/-- The plural used in the kind's API paths. -/
def plural : ConfigKind → String
  | .configMap => "configmaps"
  | .secret => "secrets"

/-- The two kinds, ConfigMaps first. -/
def all : List ConfigKind := [.configMap, .secret]

/-- The position of a kind in `all`. -/
def rank : ConfigKind → Nat
  | .configMap => 0
  | .secret => 1

/-- The name of a kind reads back as the kind. -/
theorem ofName?_name (k : ConfigKind) : ofName? k.name = some k := by
  cases k <;> rfl

end ConfigKind

/-- A ConfigMap or a Secret, by its metadata and data. -/
inductive ConfigObject where
  | configMap (metadata : ObjectMeta) (data : Option (Dict String))
  | secret (metadata : ObjectMeta) (data : Option (Dict (List UInt8)))
  deriving DecidableEq, Repr, Inhabited

/-- A reference to an object as events name it. -/
structure ObjectRef where
  /-- The API version of the object's kind. -/
  apiVersion : String
  /-- The object's kind. -/
  kind : String
  /-- The object's name, as given (not the name prefix). -/
  name : Option String
  /-- The object's namespace. -/
  ns : Option String
  /-- The object's uid. -/
  uid : Option String
  deriving DecidableEq, Repr, Inhabited

namespace ConfigObject

/-- The object's kind. -/
def kind : ConfigObject → ConfigKind
  | .configMap .. => .configMap
  | .secret .. => .secret

/-- The object's metadata. -/
def metadata : ConfigObject → ObjectMeta
  | .configMap m _ => m
  | .secret m _ => m

/-- The object with its metadata replaced. -/
def setMetadata : ConfigObject → ObjectMeta → ConfigObject
  | .configMap _ d, m => .configMap m d
  | .secret _ d, m => .secret m d

/-- The object's name, else its name prefix, else empty. -/
def name (o : ConfigObject) : String :=
  o.metadata.nameAny

/-- The object's uid. -/
def uid (o : ConfigObject) : Option String :=
  o.metadata.uid

/-- The object's annotations. -/
def annotations (o : ConfigObject) : Option (Dict String) :=
  o.metadata.annotations

/-- `namespace/name` of the object. -/
def displayName (o : ConfigObject) : String :=
  o.metadata.displayName

/-- What tells an object apart from others of its kind: its uid, or its name without one. -/
def identity (o : ConfigObject) : ConfigKind × String :=
  (o.kind, o.uid.getD o.name)

/-- The reference by which events name the object. -/
def objectRef (o : ConfigObject) : ObjectRef :=
  { apiVersion := "v1", kind := o.kind.name, name := o.metadata.name, ns := o.metadata.ns, uid := o.metadata.uid }

@[simp] theorem metadata_setMetadata (o : ConfigObject) (m : ObjectMeta) : (o.setMetadata m).metadata = m := by
  cases o <;> rfl

@[simp] theorem kind_setMetadata (o : ConfigObject) (m : ObjectMeta) : (o.setMetadata m).kind = o.kind := by
  cases o <;> rfl

end ConfigObject

end ConfigRollout
