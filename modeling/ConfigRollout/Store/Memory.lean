import ConfigRollout.Store
import ConfigRollout.Data.Table
import ConfigRollout.Text.Unsigned

/-!
# The in-memory store

A store kept in memory, with failures that can be switched on: every workload update, the
updates or gets of a named config object (in any namespace), or the lists of a kind. Once on,
a failure stays on. It counts the writes the reconciler makes and records the events it
publishes.

Versions follow the API's rule: every write stores the next version, one more than the stored
version read as a number (zero when absent or not a number). A write whose object carries
another version than the stored one is refused as a conflict; an update checks, in order, an
injected failure, a missing object, then the version.

Objects written by someone else (`putWorkload`, `putConfig`) get the next version too, and a
uid when they have none: `uid-<name>` for a workload, `uid-<Kind>-<name>` for a config object
unless the stored one had a uid.
-/

set_option autoImplicit false

namespace ConfigRollout

/-- Where a workload is kept: kind, namespace (empty when absent) and name. -/
structure WorkloadKey where
  kind : WorkloadKind
  ns : String
  name : String
  deriving DecidableEq, Repr, Inhabited

/-- Where a config object is kept: kind, namespace (empty when absent) and name. -/
structure ConfigKey where
  kind : ConfigKind
  ns : String
  name : String
  deriving DecidableEq, Repr, Inhabited

/-- The key of a workload. -/
def Workload.key (w : Workload) : WorkloadKey :=
  ⟨w.kind, w.metadata.nsOrEmpty, w.metadata.nameAny⟩

/-- The key of a config object. -/
def ConfigObject.key (o : ConfigObject) : ConfigKey :=
  ⟨o.kind, o.metadata.nsOrEmpty, o.name⟩

/-- The version after a stored one: one more than its value as a number, zero when absent or
not a number, wrapping at 2^64. -/
def nextVersion (v : Option String) : String :=
  let n := match v.map Text.parseU64 with
    | some (.ok n) => n
    | _ => 0
  toString ((n + 1) % Nat.pow 2 64)

/-- Whether a list of strings comes before another or equals it, comparing item by item. -/
def lexLe : List String → List String → Bool
  | [], _ => true
  | _ :: _, [] => false
  | a :: as, b :: bs => if a < b then true else if a = b then lexLe as bs else false

/-- The failure a switched-on fault gives. -/
def injectedFailure (what : String) : RollError :=
  .api (.service ("injected failure for " ++ what))

/-- The in-memory store. -/
structure MemoryStore where
  /-- The workloads, by key. -/
  workloads : List (WorkloadKey × Workload) := []
  /-- The config objects, by key. -/
  configs : List (ConfigKey × ConfigObject) := []
  /-- The number of workload writes made by the reconciler. -/
  workloadWrites : Nat := 0
  /-- The number of config object writes made by the reconciler. -/
  configWrites : Nat := 0
  /-- Whether every workload update fails. -/
  failWorkloadUpdates : Bool := false
  /-- The config objects, by kind and name, whose updates fail. -/
  failingUpdates : List (ConfigKind × String) := []
  /-- The config objects, by kind and name, whose gets fail. -/
  failingGets : List (ConfigKind × String) := []
  /-- The kinds whose lists fail. -/
  failingLists : List ConfigKind := []
  /-- The published events, as kind, name and reason, in order. -/
  events : List (String × String × String) := []
  deriving Inhabited

namespace MemoryStore

/-- The store with a workload written by someone else. -/
def putWorkload (s : MemoryStore) (w : Workload) : MemoryStore :=
  let stored := Table.lookup w.key s.workloads
  let md := w.metadata
  let md := { md with resourceVersion := some (nextVersion (stored.bind (·.metadata.resourceVersion))) }
  let md := if md.uid.isNone then { md with uid := some ("uid-" ++ md.nameAny) } else md
  { s with workloads := Table.upsert w.key { w with metadata := md } s.workloads }

/-- The store with a config object written by someone else. -/
def putConfig (s : MemoryStore) (o : ConfigObject) : MemoryStore :=
  let stored := Table.lookup o.key s.configs
  let md := o.metadata
  let uid := match md.uid with
    | some u => u
    | none => match stored.bind ConfigObject.uid with
      | some u => u
      | none => "uid-" ++ o.kind.name ++ "-" ++ o.name
  let md := { md with resourceVersion := some (nextVersion (stored.bind (·.metadata.resourceVersion))),
                      uid := some uid }
  { s with configs := Table.upsert o.key (o.setMetadata md) s.configs }

/-- The stored workload of a kind, namespace and name. -/
def workload? (s : MemoryStore) (kind : WorkloadKind) (ns name : String) : Option Workload :=
  Table.lookup ⟨kind, ns, name⟩ s.workloads

/-- Replaces a stored workload on behalf of the reconciler. -/
def updateWorkload (s : MemoryStore) (w : Workload) : Except RollError Workload × MemoryStore :=
  let k := w.key
  if s.failWorkloadUpdates then (.error (injectedFailure k.name), s)
  else match Table.lookup k s.workloads with
  | none => (.error (.notFound w.kind.name k.ns k.name), s)
  | some stored =>
    if stored.metadata.resourceVersion ≠ w.metadata.resourceVersion then
      (.error (.conflict w.kind.name k.ns k.name), s)
    else
      let updated := { w with metadata := { w.metadata with
        resourceVersion := some (nextVersion stored.metadata.resourceVersion) } }
      (.ok updated, { s with workloads := Table.upsert k updated s.workloads,
                             workloadWrites := s.workloadWrites + 1 })

/-- The stored config object of a kind, namespace and name. -/
def getConfig (s : MemoryStore) (kind : ConfigKind) (ns name : String) :
    Except RollError (Option ConfigObject) :=
  if s.failingGets.contains (kind, name) then .error (injectedFailure name)
  else .ok (Table.lookup ⟨kind, ns, name⟩ s.configs)

/-- The stored config objects of a kind in exactly one namespace, by name. -/
def listConfigs (s : MemoryStore) (kind : ConfigKind) (ns : String) :
    Except RollError (List ConfigObject) :=
  if s.failingLists.contains kind then .error (injectedFailure kind.name)
  else
    let found := s.configs.filter (fun e => e.1.kind = kind ∧ e.1.ns = ns)
    .ok ((found.mergeSort (fun a b => lexLe [a.1.name] [b.1.name])).map Prod.snd)

/-- Replaces a stored config object on behalf of the reconciler. -/
def updateConfig (s : MemoryStore) (o : ConfigObject) : Except RollError ConfigObject × MemoryStore :=
  let k := o.key
  if s.failingUpdates.contains (o.kind, o.name) then (.error (injectedFailure o.name), s)
  else match Table.lookup k s.configs with
  | none => (.error (.notFound o.kind.name k.ns k.name), s)
  | some stored =>
    if stored.metadata.resourceVersion ≠ o.metadata.resourceVersion then
      (.error (.conflict o.kind.name k.ns k.name), s)
    else
      let updated := o.setMetadata { o.metadata with
        resourceVersion := some (nextVersion stored.metadata.resourceVersion) }
      (.ok updated, { s with configs := Table.upsert k updated s.configs,
                             configWrites := s.configWrites + 1 })

/-- Records a published event. -/
def publish (s : MemoryStore) (ref : ObjectRef) (reason : String) : MemoryStore :=
  { s with events := s.events ++ [(ref.kind, ref.name.getD "", reason)] }

/-- The stored workloads, by kind name, namespace and name. -/
def workloadList (s : MemoryStore) : List Workload :=
  (s.workloads.mergeSort (fun a b => lexLe [a.1.kind.name, a.1.ns, a.1.name] [b.1.kind.name, b.1.ns, b.1.name])).map Prod.snd

/-- The stored config objects: ConfigMaps before Secrets, then by namespace and name. -/
def configList (s : MemoryStore) : List ConfigObject :=
  (s.configs.mergeSort (fun a b =>
    a.1.kind.rank < b.1.kind.rank ||
      (a.1.kind.rank == b.1.kind.rank && lexLe [a.1.ns, a.1.name] [b.1.ns, b.1.name]))).map Prod.snd

end MemoryStore

instance : ObjectStore (StateM MemoryStore) where
  getWorkload kind ns name := do pure (.ok ((← get).workload? kind ns name))
  updateWorkload w := modifyGet (fun s => s.updateWorkload w)
  getConfig kind ns name := do pure ((← get).getConfig kind ns name)
  listConfigs kind ns := do pure ((← get).listConfigs kind ns)
  updateConfig o := modifyGet (fun s => s.updateConfig o)

instance : EventSink (StateM MemoryStore) where
  publish ref reason _ := modify (fun s => s.publish ref reason)

end ConfigRollout
