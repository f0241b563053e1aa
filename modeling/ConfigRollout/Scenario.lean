import ConfigRollout.Reconcile.Handler
import ConfigRollout.Store.Memory

/-!
# Scenarios over the in-memory store

A scenario seeds an in-memory store with workloads and config objects and then runs steps:
reconciles, handling of a given workload or of a saved copy of a stored one, writes by someone
else, and switched-on failures. After each step it reports the step's result, the events
published during the step, the write counters so far, and the stored objects.
-/

set_option autoImplicit false

namespace ConfigRollout

/-- One step of a scenario. -/
inductive ScenarioStep where
  /-- Reconciles the stored workload of a kind, namespace and name. -/
  | reconcile (kind : WorkloadKind) (ns name : String)
  /-- Handles a workload as given; it is not stored. -/
  | handle (w : Workload)
  /-- Saves a copy of a stored workload under a label. -/
  | snapshot (kind : WorkloadKind) (ns name label : String)
  /-- Handles the copy saved under a label. -/
  | handleSnapshot (label : String)
  /-- Someone else writes a workload. -/
  | putWorkload (w : Workload)
  /-- Someone else writes a config object. -/
  | putConfig (o : ConfigObject)
  /-- Every workload update fails from now on. -/
  | failWorkloadUpdates
  /-- Updates of a config object fail from now on. -/
  | failUpdatesFor (kind : ConfigKind) (name : String)
  /-- Gets of a config object fail from now on. -/
  | failGetsFor (kind : ConfigKind) (name : String)
  /-- Lists of a kind fail from now on. -/
  | failListsFor (kind : ConfigKind)
  /-- A step that is not well formed. -/
  | malformed

/-- What a step answered. -/
inductive StepResult where
  | ok
  /-- The workload to save was not stored. -/
  | missing
  | error (e : RollError)
  /-- The step was not well formed. -/
  | malformed

/-- The report of one step. -/
structure StepReport where
  result : StepResult
  /-- The events of the step, as kind, name and reason. -/
  events : List (String × String × String)
  workloadWrites : Nat
  configWrites : Nat
  /-- The stored workloads, sorted. -/
  workloads : List Workload
  /-- The stored config objects, sorted. -/
  configs : List ConfigObject

/-- The state of a running scenario: the store and the saved copies. -/
structure ScenarioState where
  store : MemoryStore
  snapshots : List (String × Workload) := []

/-- The result of a reconcile run. -/
def StepResult.ofExcept : Except RollError Unit → StepResult
  | .ok () => .ok
  | .error e => .error e

/-- Runs one step. -/
def ScenarioState.step (st : ScenarioState) : ScenarioStep → StepResult × ScenarioState
  | .reconcile kind ns name =>
    let (r, s) := (Reconcile.reconcile kind ns name : StateM MemoryStore _).run st.store
    (.ofExcept r, { st with store := s })
  | .handle w =>
    let (r, s) := (Reconcile.handleWorkload w : StateM MemoryStore _).run st.store
    (.ofExcept r, { st with store := s })
  | .snapshot kind ns name label =>
    match st.store.workload? kind ns name with
    | some w => (.ok, { st with snapshots := Table.upsert label w st.snapshots })
    | none => (.missing, st)
  | .handleSnapshot label =>
    match Table.lookup label st.snapshots with
    | some w =>
      let (r, s) := (Reconcile.handleWorkload w : StateM MemoryStore _).run st.store
      (.ofExcept r, { st with store := s })
    | none => (.malformed, st)
  | .putWorkload w => (.ok, { st with store := st.store.putWorkload w })
  | .putConfig o => (.ok, { st with store := st.store.putConfig o })
  | .failWorkloadUpdates => (.ok, { st with store := { st.store with failWorkloadUpdates := true } })
  | .failUpdatesFor kind name =>
    (.ok, { st with store := { st.store with failingUpdates := st.store.failingUpdates ++ [(kind, name)] } })
  | .failGetsFor kind name =>
    (.ok, { st with store := { st.store with failingGets := st.store.failingGets ++ [(kind, name)] } })
  | .failListsFor kind =>
    (.ok, { st with store := { st.store with failingLists := st.store.failingLists ++ [kind] } })
  | .malformed => (.malformed, st)

/-- Runs the steps in order, reporting each. -/
def ScenarioState.run (st : ScenarioState) : List ScenarioStep → List StepReport
  | [] => []
  | step :: rest =>
    let before := st.store.events.length
    let (result, st') := st.step step
    let report : StepReport := {
      result := result, events := st'.store.events.drop before,
      workloadWrites := st'.store.workloadWrites, configWrites := st'.store.configWrites,
      workloads := st'.store.workloadList, configs := st'.store.configList }
    report :: st'.run rest

/-- Seeds a store with workloads and then config objects, and runs the steps. -/
def runScenario (workloads : List Workload) (configs : List ConfigObject) (steps : List ScenarioStep) :
    List StepReport :=
  let store := configs.foldl MemoryStore.putConfig (workloads.foldl MemoryStore.putWorkload {})
  ScenarioState.run { store := store } steps

end ConfigRollout
