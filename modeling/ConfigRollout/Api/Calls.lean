import ConfigRollout.Api.Client
import ConfigRollout.Reconcile.Handler

/-!
# Call sequences against the API server

A call sequence seeds the API server with objects and overrides and then makes calls through
the client: reads, lists and replaces of objects, events, reconciles and handling of a given
workload, writes by someone else and changes of the overrides. After each call it reports the
call's result, the requests and the event requests the call sent, and the stored objects.
-/

set_option autoImplicit false

namespace ConfigRollout

/-- One call against the API server. -/
inductive ApiCall where
  | getWorkload (kind : WorkloadKind) (ns name : String)
  | updateWorkload (w : Workload)
  | getConfig (kind : ConfigKind) (ns name : String)
  | listConfigs (kind : ConfigKind) (ns : String)
  | updateConfig (o : ConfigObject)
  /-- Records an event about a config object. -/
  | publish (o : ConfigObject) (reason note : String)
  | reconcile (kind : WorkloadKind) (ns name : String)
  /-- Handles a workload as given; it is not stored. -/
  | handle (w : Workload)
  /-- Someone else writes an object. -/
  | put (r : Resource)
  /-- Adds an override. -/
  | override (o : Override)
  /-- Drops every override. -/
  | clearOverrides
  /-- A call that is not well formed. -/
  | malformed

/-- What a call answered. -/
inductive CallResult where
  /-- A workload read or written, or none when it is missing. -/
  | workload (r : Except RollError (Option Workload))
  /-- A config object read or written, or none when it is missing. -/
  | config (r : Except RollError (Option ConfigObject))
  /-- The config objects listed. -/
  | configs (r : Except RollError (List ConfigObject))
  /-- A call without a value. -/
  | done (r : Except RollError Unit)
  /-- The call was not well formed. -/
  | malformed

/-- The report of one call. -/
structure CallReport where
  result : CallResult
  /-- The requests sent, events apart, as method and path. -/
  requests : List (String × String)
  events : List EventCall
  /-- The stored objects, by plural, namespace and name. -/
  state : List Resource

/-- Runs one call. -/
def ApiCall.run : ApiCall → StateM ApiSession CallResult
  | .getWorkload kind ns name => do
    pure (.workload (← ApiSession.getWorkload kind ns name))
  | .updateWorkload w => do
    pure (.workload ((← ApiSession.updateWorkload w).map some))
  | .getConfig kind ns name => do
    pure (.config (← ApiSession.getConfig kind ns name))
  | .listConfigs kind ns => do
    pure (.configs (← ApiSession.listConfigs kind ns))
  | .updateConfig o => do
    pure (.config ((← ApiSession.updateConfig o).map some))
  | .publish o reason note => do
    ApiSession.publish o.objectRef reason note
    pure (.done (.ok ()))
  | .reconcile kind ns name => do
    pure (.done (← Reconcile.reconcile kind ns name))
  | .handle w => do
    pure (.done (← Reconcile.handleWorkload w))
  | .put r => do
    modify (fun s => { s with server := s.server.put r })
    pure (.done (.ok ()))
  | .override o => do
    modify (fun s => { s with server := { s.server with overrides := s.server.overrides ++ [o] } })
    pure (.done (.ok ()))
  | .clearOverrides => do
    modify (fun s => { s with server := { s.server with overrides := [] } })
    pure (.done (.ok ()))
  | .malformed => pure .malformed

/-- Runs the calls in order, reporting each. -/
def ApiSession.runCalls (s : ApiSession) : List ApiCall → List CallReport
  | [] => []
  | call :: rest =>
    let (result, s') := (call.run).run s
    let report : CallReport := {
      result := result,
      requests := (s'.requests.drop s.requests.length).map (fun r => (r.1, r.2.1)),
      events := s'.events.drop s.events.length,
      state := s'.server.listing }
    report :: s'.runCalls rest

/-- Seeds a server with objects and overrides and runs the calls. -/
def runCalls (objects : List Resource) (overrides : List Override) (calls : List ApiCall) :
    List CallReport :=
  let server := objects.foldl ApiServer.put { overrides := overrides }
  ApiSession.runCalls { server := server } calls

end ConfigRollout
