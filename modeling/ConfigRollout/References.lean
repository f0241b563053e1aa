import ConfigRollout.Object.Workload
import ConfigRollout.Object.Config

/-!
# References from a pod specification to configuration

A workload uses a ConfigMap or Secret either whole (a mounted volume, a projected volume
source, or an `envFrom` source) or by single keys (an environment variable's `valueFrom`). For
each object used, `RefSpec` records whether it must exist, whether all its keys are used, and
otherwise which keys.

`resolve` collects the whole-object references first, then the key references, which leave a
whole-object entry alone. An entry created by a key reference starts as not required and
becomes required by any key reference not marked `optional: true`. Init containers are read
before containers; ephemeral containers are not read. Iteration (`References.toList`) is
ConfigMaps by name, then Secrets by name.

Main statement: key references never touch a whole-object entry (`RefSpec.addKey_whole`).
-/

set_option autoImplicit false

namespace ConfigRollout

/-- A sorted list of distinct strings with one more string placed in order. -/
def insertSorted (k : String) : List String → List String
  | [] => [k]
  | k' :: rest => if k < k' then k :: k' :: rest else if k = k' then k' :: rest else k' :: insertSorted k rest

/-- How a workload uses one object. -/
structure RefSpec where
  /-- Whether the object must exist. -/
  required : Bool := false
  /-- Whether all keys are used. -/
  allKeys : Bool := false
  /-- The keys used, in increasing order, when not all are. -/
  keys : List String := []
  deriving DecidableEq, Repr, Inhabited

namespace RefSpec

/-- The use of a whole object: required, with all keys. -/
def whole : RefSpec := { required := true, allKeys := true, keys := [] }

/-- The use with one more key; a whole-object use is left as it is. -/
def addKey (m : RefSpec) (key : String) (optional : Option Bool) : RefSpec :=
  if m.allKeys then m
  else { m with required := m.required || optional != some true, keys := insertSorted key m.keys }

/-- A whole-object use absorbs a key reference to its object. -/
theorem addKey_whole (key : String) (optional : Option Bool) : whole.addKey key optional = whole := rfl

end RefSpec

/-- The objects a workload uses, by kind and name. -/
structure References where
  /-- The ConfigMaps used. -/
  configMaps : Dict RefSpec := Dict.empty
  /-- The Secrets used. -/
  secrets : Dict RefSpec := Dict.empty
  deriving DecidableEq, Repr, Inhabited

namespace References

/-- The uses of one kind. -/
def get (r : References) : ConfigKind → Dict RefSpec
  | .configMap => r.configMaps
  | .secret => r.secrets

/-- The references with the uses of one kind transformed. -/
def modify (r : References) (k : ConfigKind) (f : Dict RefSpec → Dict RefSpec) : References :=
  match k with
  | .configMap => { r with configMaps := f r.configMaps }
  | .secret => { r with secrets := f r.secrets }

/-- The references with a whole-object use of an object. -/
def addWhole (r : References) (k : ConfigKind) (name : String) : References :=
  r.modify k (fun d => d.insert name RefSpec.whole)

/-- The references with one more key used of an object. -/
def addKey (r : References) (k : ConfigKind) (ref : KeyRef) : References :=
  r.modify k (fun d => d.insert ref.name (((d.get? ref.name).getD {}).addKey ref.key ref.optional))

/-- The number of objects used. -/
def size (r : References) : Nat :=
  r.configMaps.size + r.secrets.size

/-- Whether no object is used. -/
def isEmpty (r : References) : Bool :=
  r.size == 0

/-- Every use as kind, name and use: ConfigMaps by name, then Secrets by name. -/
def toList (r : References) : List (ConfigKind × String × RefSpec) :=
  r.configMaps.toList.map (fun e => (.configMap, e.1, e.2)) ++
    r.secrets.toList.map (fun e => (.secret, e.1, e.2))

end References

namespace PodSpec

/-- The containers whose environment is read: init containers, then containers. -/
def envContainers (s : PodSpec) : List Container :=
  s.initContainers ++ s.containers

/-- The objects a volume uses whole, in order. -/
def volumeWholes (v : Volume) : List (ConfigKind × String) :=
  (v.configMap.map (fun n => (ConfigKind.configMap, n))).toList ++
    (v.secretName.map (fun n => (ConfigKind.secret, n))).toList ++
    v.projections.flatMap (fun p =>
      (p.configMap.map (fun n => (ConfigKind.configMap, n))).toList ++
        (p.secret.map (fun n => (ConfigKind.secret, n))).toList)

/-- The objects a container's `envFrom` uses whole, in order. -/
def envFromWholes (c : Container) : List (ConfigKind × String) :=
  c.envFrom.flatMap (fun e =>
    (e.configMapRef.map (fun n => (ConfigKind.configMap, n))).toList ++
      (e.secretRef.map (fun n => (ConfigKind.secret, n))).toList)

/-- The keys a container's variables take their values from, in order. -/
def envKeyRefs (c : Container) : List (ConfigKind × KeyRef) :=
  c.env.flatMap (fun v => match v.valueFrom with
    | none => []
    | some src =>
      (src.configMapKeyRef.map (fun r => (ConfigKind.configMap, r))).toList ++
        (src.secretKeyRef.map (fun r => (ConfigKind.secret, r))).toList)

/-- Every whole-object use: volumes first, then the `envFrom` of the read containers. -/
def wholeNames (s : PodSpec) : List (ConfigKind × String) :=
  s.volumes.flatMap volumeWholes ++ s.envContainers.flatMap envFromWholes

/-- Every key use of the read containers, in order. -/
def keyRefs (s : PodSpec) : List (ConfigKind × KeyRef) :=
  s.envContainers.flatMap envKeyRefs

/-- The objects a pod specification uses. -/
def resolve (s : PodSpec) : References :=
  s.keyRefs.foldl (fun r e => r.addKey e.1 e.2)
    (s.wholeNames.foldl (fun r e => r.addWhole e.1 e.2) {})

end PodSpec

/-- The objects a workload's pod template uses; none without a pod specification. -/
def Workload.references (w : Workload) : References :=
  match w.podSpec with
  | some s => s.resolve
  | none => {}

end ConfigRollout
