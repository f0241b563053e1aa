import ConfigRollout.Api.Server
import ConfigRollout.Api.Status
import ConfigRollout.Connect.Uri
import ConfigRollout.Data.Json.Render
import ConfigRollout.Object.Decode
import ConfigRollout.Object.Read
import ConfigRollout.Store

/-!
# Speaking to the API server

The client side of the API: requests go to the server model, and its answers are read the way
the API client reads them. A request is built from the text of its URI, which must read as a
path and query (`Connect.Uri.parse`); a request about a named object also needs a name. A
request that cannot be built fails before anything is sent. The server sees the path the URI
reads as: a `?` in a name starts the query, and a `#` ends the path.

An answer with a status of 400 or more is an error: its body is read as the server's error
response, or, when it is none, one is made from the status line and the quoted body text. A
successful answer is read as the expected object with `Reader.readText`, and a body that does
not read fails with the reader's message.

Reading a missing object is not an error: an error response whose code is 404 reads as no
object. Replacing an object needs its namespace and its name (a name prefix does not count),
and a 409 answer is a conflict. Events are recorded through a cache keyed by reason and object:
the first event about an object with a reason is created, a repeated one is patched with the
cached event, and only an accepted event enters the cache.

`ApiSession` is the client's state: the server, the requests it sent (events apart), the event
requests, the recorder's cache, and the count of successful writes.
-/

set_option autoImplicit false

namespace ConfigRollout

/-- An event request as sent: method, namespace, reason, the object's kind and name, note. -/
structure EventCall where
  method : String
  ns : String
  reason : String
  kind : String
  name : Option String
  note : String
  deriving DecidableEq, Repr, Inhabited

/-- The client's state. -/
structure ApiSession where
  server : ApiServer
  /-- The requests sent, events apart: method, path and whether it watches. -/
  requests : List (String × String × Bool) := []
  /-- The event requests sent. -/
  events : List EventCall := []
  /-- The recorded events by reason and object, with the note first sent. -/
  eventCache : List ((String × ObjectRef) × String) := []
  /-- The number of replaces the server stored. -/
  writes : Nat := 0
  deriving Inhabited

namespace ApiSession

/-- Sends a request and logs it: a request to an events path with an event goes to the event
log, any other to the request log. None answers a watch. -/
def send (req : Request) : StateM ApiSession (Option Response) := fun s =>
  let (resp, server) := s.server.answer req
  let stored := match req.method, resp with
    | .put, some r => if r.status == 200 && (s.server.override? "PUT" req.path).isNone then 1 else 0
    | _, _ => 0
  let s := { s with server := server, writes := s.writes + stored }
  let s := match Target.ofPath? req.path, req.payload with
    | some (.events ns _), .event e =>
      { s with events := s.events ++ [⟨req.method.name, ns, e.reason, e.regarding.kind, e.regarding.name, e.note⟩] }
    | _, _ => { s with requests := s.requests ++ [(req.method.name, req.path, req.watch)] }
  (resp, s)

end ApiSession

/-- A request built from the text of its URI: the path it reads as, watching when its query asks
to; a URI that does not read is refused. -/
def Request.ofUri (method : Method) (uri : String) (payload : Payload) : Except ApiError Request :=
  match Connect.Uri.parse uri with
  | .ok u =>
    let watch := u.target.query.any (fun q => (q.splitOn "&").contains "watch=true")
    .ok { method := method, path := u.target.path, watch := watch, payload := payload }
  | .error e => .error (.build ("failed to build request: " ++ e.message))

/-- A request about a named object: refused for an empty name, then as `Request.ofUri`. -/
def Request.named (method : Method) (name uri : String) (payload : Payload) :
    Except ApiError Request :=
  if name.isEmpty then .error (.build "failed to validate request: A non-empty name is required")
  else Request.ofUri method uri payload

/-- The failure of a request that cannot be built, if it cannot. -/
def Request.refusal (built : Except ApiError Request) : Option RollError :=
  match built with
  | .ok _ => none
  | .error e => some (.api e)

/-- The URI of one object. -/
def objectUri (plural ns name : String) : String := (Target.item plural ns name).path

/-- The URI of a replace of one object. -/
def replaceUri (plural ns name : String) : String := objectUri plural ns name ++ "?"

/-- The URI of a list of the objects of a namespace. -/
def listUri (plural ns : String) : String := (Target.collection plural (some ns)).path ++ "?"

/-- The URI that creates an event in a namespace. -/
def eventsUri (ns : String) : String := (Target.events ns none).path ++ "?"

/-- The URI that patches an event of a namespace. -/
def eventUri (ns name : String) : String := (Target.events ns (some name)).path ++ "?"

/-- Sends a request once it is built; nothing is sent when it could not be. -/
def ApiSession.sendBuilt (built : Except ApiError Request) :
    StateM ApiSession (Except ApiError (Option Response)) :=
  match built with
  | .ok req => do pure (.ok (← ApiSession.send req))
  | .error e => pure (.error e)

/-- An object of one of the five kinds, chosen by its top-level kind field. -/
def Decode.resource? (j : Json) : Option Resource :=
  match j.field? "kind" with
  | some (.str k) =>
    match WorkloadKind.ofName? k with
    | some wk => (Decode.workload? wk j).map .workload
    | none => (ConfigKind.ofName? k).bind (fun ck => (Decode.configOf? ck j).map .config)
  | _ => none

/-- The text of a body. -/
def Body.content : Body → String
  | .text s => s
  | .json j => j.render
  | _ => ""

/-- Reads the text of a body as a value of a shape, and then as what the value describes. -/
def Body.readAs {α : Type} (shape : Shape) (decode : Json → Option α) (b : Body) :
    Except String α :=
  match Reader.readText shape b.content with
  | .error e => .error e.text
  | .ok j =>
    match decode j with
    | some a => .ok a
    | none => .error (Reader.invalidType "map" shape.expected)

/-- The shape of the server's error response: a status and a code below 65536, with a message
and a reason that default to empty. -/
def ErrorResponse.shape : Shape := .record "ErrorResponse" false [
  ("status", .string, .required), ("message", .string, .defaulted),
  ("reason", .string, .defaulted), ("code", .int "u16" 0 65535, .required)]

/-- The error response a value of its shape describes. -/
def ErrorResponse.ofJson? (j : Json) : Option ErrorResponse := do
  let status ← (j.field? "status").bind Json.str?
  let code ← (j.field? "code").bind Json.int?
  let text (name : String) : String := ((j.field? name).bind Json.str?).getD ""
  some { status, message := text "message", reason := text "reason", code := code.toNat }

/-- The error response of an error answer: its body when that reads as one, else one made from
the status line and the quoted body. -/
def Response.errorResponse (r : Response) : ErrorResponse :=
  match r.body.readAs ErrorResponse.shape ErrorResponse.ofJson? with
  | .ok e => e
  | .error _ => { status := statusLine r.status, message := Text.escaped r.body.content,
                  reason := "Failed to parse error data", code := r.status }

/-- The shape of a list of objects of a shape: its items, and list metadata; any other member
is read as any value. -/
def listShape (item : Shape) : Shape := .record "ObjectList" true [
  ("metadata", Shape.listMeta, .defaulted), ("items", .list item, .requiredOrNull)]

/-- The items of a list as read, when each is an object. -/
def listItems? {α : Type} (decode : Json → Option α) (j : Json) : Option (List α) :=
  match j.field? "items" with
  | some (.arr elems) => elems.mapM decode
  | some .null => some []
  | _ => none

/-- A body read as a workload of a kind. -/
def Body.readWorkload (kind : WorkloadKind) (b : Body) : Except String Workload :=
  match b with
  | .resource (.workload w) =>
    if w.kind = kind then .ok w
    else b.readAs (Decode.workloadShape kind) (Decode.workload? kind)
  | _ => b.readAs (Decode.workloadShape kind) (Decode.workload? kind)

/-- A body read as a config object of a kind. -/
def Body.readConfig (kind : ConfigKind) (b : Body) : Except String ConfigObject :=
  match b with
  | .resource (.config o) =>
    if o.kind = kind then .ok o else b.readAs (Decode.configShape kind) (Decode.configOf? kind)
  | _ => b.readAs (Decode.configShape kind) (Decode.configOf? kind)

/-- A body read as a list of config objects of a kind. -/
def Body.readConfigs (kind : ConfigKind) (b : Body) : Except String (List ConfigObject) :=
  match b with
  | .items rs => .ok (rs.filterMap (fun r => match r with
      | .config o => if o.kind = kind then some o else none
      | _ => none))
  | _ => b.readAs (listShape (Decode.configShape kind)) (listItems? (Decode.configOf? kind))

/-- The result of a read: an error response of code 404 reads as nothing. -/
def readOptional {α : Type} (sent : Except ApiError (Option Response))
    (read : Body → Except String α) : Except RollError (Option α) :=
  match sent with
  | .error e => .error (.api e)
  | .ok none => .ok none
  | .ok (some r) =>
    if r.status ≥ 400 then
      let e := r.errorResponse
      if e.code = 404 then .ok none else .error (.api (.response e))
    else match read r.body with
      | .ok a => .ok (some a)
      | .error msg => .error (.api (.decode msg))

/-- The result of a replace; a 409 error response is a conflict. -/
def readRequired {α : Type} (sent : Except ApiError (Option Response))
    (read : Body → Except String α) (conflict : RollError) : Except RollError α :=
  match sent with
  | .error e => .error (.api e)
  | .ok none => .error (.api (.service "no answer"))
  | .ok (some r) =>
    if r.status ≥ 400 then
      let e := r.errorResponse
      if e.code = 409 then .error conflict else .error (.api (.response e))
    else match read r.body with
      | .ok a => .ok a
      | .error msg => .error (.api (.decode msg))

/-- The result of a list. -/
def readList {α : Type} (sent : Except ApiError (Option Response))
    (read : Body → Except String α) : Except RollError α :=
  match sent with
  | .error e => .error (.api e)
  | .ok none => .error (.api (.service "no answer"))
  | .ok (some r) =>
    if r.status ≥ 400 then .error (.api (.response r.errorResponse))
    else match read r.body with
      | .ok a => .ok a
      | .error msg => .error (.api (.decode msg))

namespace ApiSession

/-- The namespace and name a replace needs. -/
def replaceTarget (md : ObjectMeta) : Except RollError (String × String) :=
  match md.ns with
  | none => .error (.missingKey ".metadata.namespace")
  | some ns => match md.name with
    | none => .error (.missingKey ".metadata.name")
    | some name => .ok (ns, name)

/-- The request that reads a config object. -/
def getConfigRequest (kind : ConfigKind) (ns name : String) : Except ApiError Request :=
  Request.named .get name (objectUri kind.plural ns name) .empty

/-- The request that lists the config objects of a kind in a namespace. -/
def listConfigsRequest (kind : ConfigKind) (ns : String) : Except ApiError Request :=
  Request.ofUri .get (listUri kind.plural ns) .empty

/-- Reads a workload. -/
def getWorkload (kind : WorkloadKind) (ns name : String) :
    StateM ApiSession (Except RollError (Option Workload)) := do
  let sent ← sendBuilt (Request.named .get name (objectUri kind.plural ns name) .empty)
  pure (readOptional sent (Body.readWorkload kind))

/-- Replaces a workload. -/
def updateWorkload (w : Workload) : StateM ApiSession (Except RollError Workload) := do
  match replaceTarget w.metadata with
  | .error e => pure (.error e)
  | .ok (ns, name) =>
    let sent ← sendBuilt (Request.named .put name (replaceUri w.kind.plural ns name)
      (.resource (.workload w)))
    pure (readRequired sent (Body.readWorkload w.kind) (.conflict w.kind.name ns name))

/-- Reads a config object. -/
def getConfig (kind : ConfigKind) (ns name : String) :
    StateM ApiSession (Except RollError (Option ConfigObject)) := do
  let sent ← sendBuilt (getConfigRequest kind ns name)
  pure (readOptional sent (Body.readConfig kind))

/-- Lists the config objects of a kind in a namespace. -/
def listConfigs (kind : ConfigKind) (ns : String) :
    StateM ApiSession (Except RollError (List ConfigObject)) := do
  let sent ← sendBuilt (listConfigsRequest kind ns)
  pure (readList sent (Body.readConfigs kind))

/-- Replaces a config object. -/
def updateConfig (o : ConfigObject) : StateM ApiSession (Except RollError ConfigObject) := do
  match replaceTarget o.metadata with
  | .error e => pure (.error e)
  | .ok (ns, name) =>
    let sent ← sendBuilt (Request.named .put name (replaceUri o.kind.plural ns name)
      (.resource (.config o)))
    pure (readRequired sent (Body.readConfig o.kind) (.conflict o.kind.name ns name))

/-- Whether a request was sent and answered with success. -/
def accepted (sent : Except ApiError (Option Response)) : Bool :=
  match sent with
  | .ok (some r) => r.status < 400
  | _ => false

/-- Records an event about an object: created the first time, patched with the cached event
when it was recorded before; a failure, to build the request included, is dropped. -/
def publish (ref : ObjectRef) (reason note : String) : StateM ApiSession Unit := do
  let s ← get
  let ns := ref.ns.getD "default"
  let key := (reason, ref)
  match Table.lookup key s.eventCache with
  | some cached =>
    let name := ref.name.getD "roller" ++ "." ++ toString s.events.length
    let sent ← sendBuilt (Request.named .patch name (eventUri ns name)
      (.event ⟨ns, reason, ref, cached⟩))
    if accepted sent then
      modify (fun s => { s with eventCache := Table.upsert key cached s.eventCache })
  | none =>
    let sent ← sendBuilt (Request.ofUri .post (eventsUri ns) (.event ⟨ns, reason, ref, note⟩))
    if accepted sent then
      modify (fun s => { s with eventCache := Table.upsert key note s.eventCache })

end ApiSession

instance : ObjectStore (StateM ApiSession) where
  getWorkload := ApiSession.getWorkload
  updateWorkload := ApiSession.updateWorkload
  getConfig := ApiSession.getConfig
  listConfigs := ApiSession.listConfigs
  updateConfig := ApiSession.updateConfig
  refusesGet kind ns name := Request.refusal (ApiSession.getConfigRequest kind ns name)
  refusesList kind ns := Request.refusal (ApiSession.listConfigsRequest kind ns)

instance : EventSink (StateM ApiSession) where
  publish := ApiSession.publish

end ConfigRollout
