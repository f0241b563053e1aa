import ConfigRollout.Api.Client
import ConfigRollout.Reconcile.Handler
import ConfigRollout.Settings

/-!
# The controller

One reconciler per workload kind lists and then watches three collections, all in the watched
namespace or across all namespaces: its workloads, the ConfigMaps and the Secrets. Every listed
workload is reconciled at time zero, and again after the resync interval when it succeeded or
after the error interval when it failed, for as long as the run lasts. A workload without a
namespace fails before the handler sees it. Config objects only name workloads that are already
listed, so they add no reconcile of their own; watches never deliver an event.

The run is simulated in virtual time by `Run.loop`. It stops early once the store has settled:
when every workload has been reconciled since the last write to the store. From then on each
reconcile meets the store as its previous one did, so it repeats the same requests, the same
result and therefore the same interval; an event is only ever published after a write. The
requests and events of the run are therefore those made before that point, kept as sorted sets.
-/

set_option autoImplicit false

namespace ConfigRollout

/-- What the controller is started with. -/
structure ControllerSpec where
  /-- The workload kinds, one reconciler each. -/
  kinds : List WorkloadKind
  settings : Settings := {}
  /-- How long the run lasts, in seconds of virtual time. -/
  runSecs : Nat := 1

/-- A path an override may name: one object of the five kinds, or the events of a namespace. -/
def overridablePath (path : String) : Bool :=
  match path.splitOn "/" with
  | ["", "api", "v1", "namespaces", _, plural, _] => corePlurals.contains plural
  | ["", "apis", "apps", "v1", "namespaces", _, plural, _] => WorkloadKind.all.any (·.plural == plural)
  | ["", "apis", "events.k8s.io", "v1", "namespaces", _, "events"] => true
  | ["", "apis", "events.k8s.io", "v1", "namespaces", _, "events", _] => true
  | _ => false

/-- A workload being reconciled: its identity, when it is due, and the number of the attempt
that last reconciled it. -/
structure Watched where
  kind : WorkloadKind
  ns : Option String
  name : String
  due : Nat := 0
  attempt : Option Nat := none

/-- The state of a run: the client, the workloads and the attempts so far, with the number of
the last attempt that wrote to the store. -/
structure Run where
  session : ApiSession
  watched : List Watched := []
  attempts : Nat := 0
  lastWrite : Option Nat := none

/-- Lists a collection and then watches it; the listed objects. -/
def listAndWatch (plural : String) (ns : Option String) : StateM ApiSession (List Resource) := do
  let path := (Target.collection plural ns).path
  let listed ← ApiSession.sendBuilt (Request.ofUri .get (path ++ "?") .empty)
  let _ ← ApiSession.sendBuilt (Request.ofUri .get (path ++ "?watch=true") .empty)
  match listed with
  | .ok (some ⟨_, .items rs⟩) => pure rs
  | _ => pure []

/-- Starts the reconciler of a kind: its three collections are listed and watched, and its
workloads are due at time zero. -/
def startReconciler (ns : Option String) (kind : WorkloadKind) : StateM ApiSession (List Watched) := do
  let listed ← listAndWatch kind.plural ns
  let _ ← listAndWatch ConfigKind.configMap.plural ns
  let _ ← listAndWatch ConfigKind.secret.plural ns
  pure (listed.filterMap (fun r => match r with
    | .workload w => if w.kind = kind then some { kind := kind, ns := w.metadata.ns, name := w.metadata.nameAny } else none
    | _ => none))

/-- One reconcile of a workload; whether it succeeded. -/
def reconcileWatched (w : Watched) : StateM ApiSession Bool :=
  match w.ns with
  | none => pure false
  | some ns => do
    let r ← Reconcile.reconcile w.kind ns w.name
    pure (match r with
      | .ok () => true
      | .error _ => false)

namespace Run

/-- Whether every workload was reconciled since the last write. -/
def settled (r : Run) : Bool :=
  r.watched.all (fun w => match w.attempt, r.lastWrite with
    | some a, some last => last < a
    | some _, none => true
    | none, _ => false)

/-- Reconciles one workload now and schedules its next reconcile. -/
def attempt (settings : Settings) (r : Run) (w : Watched) : Run × Watched :=
  let before := r.session.writes
  let (ok, session) := (reconcileWatched w).run r.session
  let n := r.attempts
  let lastWrite := if session.writes = before then r.lastWrite else some n
  ({ r with session := session, attempts := n + 1, lastWrite := lastWrite },
   { w with due := w.due + (if ok then settings.resyncSecs else settings.errorRequeueSecs), attempt := some n })

/-- Reconciles every workload due at a time. -/
def tick (settings : Settings) (t : Nat) (r : Run) : Run :=
  let (r', ws) := r.watched.foldl (fun (acc : Run × List Watched) w =>
    if w.due = t then
      let (r1, w1) := acc.1.attempt settings w
      (r1, acc.2 ++ [w1])
    else (acc.1, acc.2 ++ [w])) (r, [])
  { r' with watched := ws }

/-- The time of the next reconcile, unless the run is over or the store has settled. -/
def nextTime? (spec : ControllerSpec) (r : Run) : Option Nat :=
  if r.settled then none
  else match (r.watched.map (·.due)).min? with
    | some t => if t < spec.runSecs then some t else none
    | none => none

/-- Runs reconciles in time order while fuel lasts. Every reconcile moves its workload's due
time forward, so `spec.runSecs` ticks always suffice. -/
def loop (spec : ControllerSpec) : Nat → Run → Run
  | 0, r => r
  | fuel + 1, r =>
    match r.nextTime? spec with
    | none => r
    | some t => loop spec fuel (r.tick spec.settings t)

end Run

/-- The sorted list of distinct elements of a list, sorted by a key. -/
def sortedSet {α : Type} [BEq α] (key : α → List String) (xs : List α) : List α :=
  (xs.mergeSort (fun a b => lexLe (key a) (key b))).eraseDups

/-- What a run of the controller leaves: the stored objects, and the distinct requests (method,
path, watch) and events (reason, kind, name, namespace) it sent, sorted. -/
structure ControllerReport where
  state : List Resource
  requests : List (String × String × Bool)
  events : List (String × String × Option String × String)

/-- Runs the controller against a server. -/
def runController (spec : ControllerSpec) (server : ApiServer) : ControllerReport :=
  let ns := spec.settings.watchNamespace
  let kinds := spec.kinds.eraseDups
  let (watched, session) := (kinds.mapM (startReconciler ns)).run { server := server }
  let run := Run.loop spec (spec.runSecs + 1) { session := session, watched := watched.flatten }
  let s := run.session
  { state := s.server.listing,
    requests := sortedSet (fun (m, p, w) => [m, p, if w then "1" else "0"]) s.requests,
    events := sortedSet (fun (reason, kind, name, ns) => [reason, kind, name.getD "", ns])
      (s.events.map (fun e => (e.reason, e.kind, e.name, e.ns))) }

end ConfigRollout
