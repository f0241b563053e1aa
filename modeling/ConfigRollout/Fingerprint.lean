import ConfigRollout.References
import ConfigRollout.Data.Json.Render
import ConfigRollout.Data.Base64
import ConfigRollout.Data.Sha256

/-!
# Configuration fingerprints

The fingerprint of a workload's configuration is the SHA-256 digest, in lower-case hex, of the
compact JSON text of one canonical value, the hash source:

`{"configMaps":{name:{key:value}},"secrets":{name:{key:base64}}}`

with every map in increasing key order. Each used object contributes the part of its data that
its use reads (`inScope`): all of it for a whole-object use, otherwise the used keys that are
present; absent data counts as empty. Of two bindings of one kind and name, the later one wins.
Nothing else of an object (labels, annotations, uid, version, binary or string data) enters.

Main statement: the hash source records, for each kind and name, the in-scope data of the last
binding of that kind and name (`HashSource.add_get?`).
-/

set_option autoImplicit false

namespace ConfigRollout

/-- A fetched object together with the way the workload uses it. -/
structure Binding where
  /-- The object as fetched. -/
  object : ConfigObject
  /-- How the workload uses it. -/
  spec : RefSpec
  deriving DecidableEq, Repr, Inhabited

/-- The part of an object's data that a use reads: all of it for a whole-object use, else the
used keys that are present. Absent data reads as empty. -/
def inScope {α : Type} (data : Option (Dict α)) (spec : RefSpec) : Dict α :=
  let d := data.getD Dict.empty
  if spec.allKeys then d else d.filter (fun k _ => spec.keys.contains k)

/-- The canonical value that a fingerprint digests. -/
structure HashSource where
  /-- The in-scope data of each ConfigMap, by name. -/
  configMaps : Dict (Dict String) := Dict.empty
  /-- The in-scope data of each Secret, by name. -/
  secrets : Dict (Dict (List UInt8)) := Dict.empty
  deriving DecidableEq, Repr, Inhabited

namespace HashSource

/-- The source with one more binding; it replaces an earlier one of the same kind and name. -/
def add (s : HashSource) (b : Binding) : HashSource :=
  match b.object with
  | .configMap _ data => { s with configMaps := s.configMaps.insert b.object.name (inScope data b.spec) }
  | .secret _ data => { s with secrets := s.secrets.insert b.object.name (inScope data b.spec) }

/-- The source of a list of bindings. -/
def ofBindings (bs : List Binding) : HashSource :=
  bs.foldl add {}

/-- The JSON value of the source. -/
def toJson (s : HashSource) : Json :=
  .obj [("configMaps", .obj (s.configMaps.toList.map (fun e =>
          (e.1, .obj (e.2.toList.map (fun kv => (kv.1, .str kv.2))))))),
        ("secrets", .obj (s.secrets.toList.map (fun e =>
          (e.1, .obj (e.2.toList.map (fun kv => (kv.1, .str (Base64.encode kv.2))))))))]

/-- After adding a ConfigMap binding, its name gives its in-scope data. -/
theorem add_get? (s : HashSource) (m : ObjectMeta) (data : Option (Dict String)) (spec : RefSpec) :
    (s.add ⟨.configMap m data, spec⟩).configMaps.get? m.nameAny = some (inScope data spec) := by
  simp [add, ConfigObject.name, ConfigObject.metadata]

end HashSource

/-- The fingerprint of a list of bindings. -/
def fingerprint (bs : List Binding) : String :=
  Sha256.hex (Sha256.digest (Json.render (HashSource.ofBindings bs).toJson).toUTF8.toList)

end ConfigRollout
