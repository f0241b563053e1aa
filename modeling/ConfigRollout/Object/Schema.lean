import ConfigRollout.Data.Json
import ConfigRollout.Data.Base64
import ConfigRollout.Text.Timestamp

/-!
# The shapes of API objects

An object read from the API is accepted only when every field that its type defines has a value
of the field's type; fields that the type does not define are ignored, and a field given as
`null` counts as absent. `Shape` describes those types, `Shape.accepts` checks a JSON value
against one, and the modules under `Schema/` give the shapes of ConfigMaps, Secrets, the three
workload kinds and everything they contain.

Two kinds of records occur. The API's own types (`apiType`) name every field optional, let a
field repeat (the last one counts) and read only from an object; a top-level type also fixes
its `apiVersion` and `kind`, which must then be exactly those strings. Plain records (`record`)
read each field at most once and may require a field; they read from a list of their fields'
values as well, except a record that gathers its unknown members (`flatten`), which reads only
from an object.

Inside a list or a map, `null` is a value of no shape but `any`.
-/

set_option autoImplicit false

namespace ConfigRollout

/-- How a field of a plain record may be left out. -/
inductive Presence where
  /-- Missing and `null` both read as absent. -/
  | optional
  /-- Missing reads as the default; `null` must be a value of the field's shape. -/
  | defaulted
  /-- Missing is an error; `null` must be a value of the field's shape. -/
  | required
  /-- Missing is an error; `null` reads as the default. -/
  | requiredOrNull
  deriving DecidableEq, Repr, Inhabited

/-- Whether a field of a plain record may be `null` for absent. -/
def Presence.nullable : Presence → Bool
  | .optional => true
  | .requiredOrNull => true
  | _ => false

/-- The type of a value in an API object. -/
inductive Shape where
  /-- Any value. -/
  | any
  | string
  | bool
  /-- An integer within bounds, with the name of its type (`i32`). -/
  | int (name : String) (lo hi : Int)
  /-- A 32-bit signed integer or a string. -/
  | intOrString
  /-- A string holding a time. -/
  | time
  /-- A string holding padded standard base64. -/
  | bytes
  /-- A list whose items have one shape. -/
  | list (item : Shape)
  /-- An object used as a map, whose values have one shape. -/
  | map (value : Shape)
  /-- A type of the API: its name, the `apiVersion` and `kind` it fixes if any, and its
  fields, all optional. -/
  | apiType (name : String) (typeMeta : Option (String × String)) (fields : List (String × Shape))
  /-- A plain record: its name, whether it gathers its unknown members (and then reads only from
  an object), and its fields. -/
  | record (name : String) (flatten : Bool) (fields : List (String × Shape × Presence))
  deriving Repr, Inhabited

namespace Shape

/-- The shape of a field name in a list of named shapes. -/
def lookup (name : String) : List (String × Shape) → Option Shape
  | [] => none
  | (k, s) :: rest => if k = name then some s else lookup name rest

/-- How a value of a shape is named when another one is found: the reader's "expected" text. -/
def expected : Shape → String
  | .any => "any valid JSON value"
  | .string => "a string"
  | .bool => "a boolean"
  | .int name _ _ => name
  | .intOrString => "IntOrString"
  | .time => "an RFC 3339 formatted date and time string"
  | .bytes => "a base64-encoded string"
  | .list _ => "a sequence"
  | .map _ => "a map"
  | .apiType name _ _ => name
  | .record name _ _ => "struct " ++ name

/-- Whether the `apiVersion` and `kind` members of an object, when given, are the fixed ones. -/
def typeMetaMatches (fixed : Option (String × String)) (fields : List (String × Json)) : Bool :=
  match fixed with
  | none => true
  | some (apiVersion, kind) =>
    fields.all fun (k, v) =>
      (k != "apiVersion" || v.str? == some apiVersion) && (k != "kind" || v.str? == some kind)

/-- The shape and presence of a field of a plain record. -/
def recordField (name : String) : List (String × Shape × Presence) → Option (Shape × Presence)
  | [] => none
  | (k, s, p) :: rest => if k = name then some (s, p) else recordField name rest

/-- Whether an object gives each field of a plain record at most once, and every field that
may not be left out. -/
def recordFieldsPresent (shapes : List (String × Shape × Presence))
    (fields : List (String × Json)) : Bool :=
  shapes.all fun (name, _, presence) =>
    match fields.countP (·.1 == name) with
    | 0 => presence == .optional || presence == .defaulted
    | 1 => true
    | _ => false

mutual

/-- Whether a value has a shape. -/
def accepts : Shape → Json → Bool
  | .any, _ => true
  | .string, .str _ => true
  | .bool, .bool _ => true
  | .int _ lo hi, .int n => decide (lo ≤ n ∧ n ≤ hi)
  | .intOrString, .int n => decide (-2147483648 ≤ n ∧ n ≤ 2147483647)
  | .intOrString, .str _ => true
  | .time, .str s => Text.isTimestamp s
  | .bytes, .str s => (Base64.decode s).isSome
  | .list item, .arr items => acceptsItems item items
  | .map value, .obj fields => acceptsValues value fields
  | .apiType _ fixed shapes, .obj fields => typeMetaMatches fixed fields && acceptsMembers shapes fields
  | .record _ _ shapes, .obj fields =>
    recordFieldsPresent shapes fields && acceptsRecordMembers shapes fields
  | _, _ => false

/-- Whether every item of a list has a shape. -/
def acceptsItems (item : Shape) : List Json → Bool
  | [] => true
  | j :: rest => accepts item j && acceptsItems item rest

/-- Whether every value of an object's members has a shape. -/
def acceptsValues (value : Shape) : List (String × Json) → Bool
  | [] => true
  | (_, j) :: rest => accepts value j && acceptsValues value rest

/-- Whether every member that names a field has that field's shape or is `null`. -/
def acceptsMembers (shapes : List (String × Shape)) : List (String × Json) → Bool
  | [] => true
  | (k, j) :: rest =>
    (match lookup k shapes, j with
      | none, _ => true
      | some _, .null => true
      | some s, j => accepts s j) && acceptsMembers shapes rest

/-- Whether every member that names a field of a plain record has that field's shape, or is
`null` where the field allows it. -/
def acceptsRecordMembers (shapes : List (String × Shape × Presence)) :
    List (String × Json) → Bool
  | [] => true
  | (k, j) :: rest =>
    (match recordField k shapes, j with
      | none, _ => true
      | some (_, .optional), .null => true
      | some (_, .requiredOrNull), .null => true
      | some (s, _), j => accepts s j) && acceptsRecordMembers shapes rest

end

/-- A 32-bit signed integer. -/
def int32 : Shape := .int "i32" (-2147483648) 2147483647

/-- A 64-bit signed integer. -/
def int64 : Shape := .int "i64" (-9223372036854775808) 9223372036854775807

/-- An amount of a resource, written as a string. -/
def quantity : Shape := .string

/-- An entry of an object's field management. -/
def managedFieldsEntry : Shape := .apiType "ManagedFieldsEntry" none [
  ("apiVersion", .string), ("fieldsType", .string), ("fieldsV1", .any), ("manager", .string),
  ("operation", .string), ("subresource", .string), ("time", .time)]

/-- A reference to an object's owner. -/
def ownerReference : Shape := .apiType "OwnerReference" none [
  ("apiVersion", .string), ("blockOwnerDeletion", .bool), ("controller", .bool),
  ("kind", .string), ("name", .string), ("uid", .string)]

/-- The metadata of an object. -/
def objectMeta : Shape := .apiType "ObjectMeta" none [
  ("annotations", .map .string), ("creationTimestamp", .time),
  ("deletionGracePeriodSeconds", int64), ("deletionTimestamp", .time),
  ("finalizers", .list .string), ("generateName", .string), ("generation", int64),
  ("labels", .map .string), ("managedFields", .list managedFieldsEntry),
  ("name", .string), ("namespace", .string), ("ownerReferences", .list ownerReference),
  ("resourceVersion", .string), ("selfLink", .string), ("uid", .string)]

/-- The metadata of a list. -/
def listMeta : Shape := .apiType "ListMeta" none [
  ("continue", .string), ("remainingItemCount", int64), ("resourceVersion", .string),
  ("selfLink", .string)]

/-- A label selector. -/
def labelSelector : Shape := .apiType "LabelSelector" none [
  ("matchExpressions", .list (.apiType "LabelSelectorRequirement" none [("key", .string),
    ("operator", .string), ("values", .list .string)])),
  ("matchLabels", .map .string)]

/-- A reference to an object of the same namespace by name. -/
def localObjectReference : Shape := .apiType "LocalObjectReference" none [("name", .string)]

end Shape

end ConfigRollout
