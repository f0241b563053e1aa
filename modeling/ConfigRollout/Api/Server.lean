import ConfigRollout.Object.Workload
import ConfigRollout.Object.Config
import ConfigRollout.Data.Table
import ConfigRollout.Data.Json
import ConfigRollout.Store.Memory

/-!
# The API server

A model of the Kubernetes API server as the program meets it: it keeps ConfigMaps, Secrets and
the three workload kinds under (plural, namespace, name), answers reads of single objects and
of collections, replaces objects with a version check, and accepts events. Answers may be
overridden: an override fixes the status and body of every request with a given method and path.

The server reads a request's path segment by segment (`Target.ofPath?`): the paths of one
object or of a collection of the five kinds, and the events of a namespace. A collection lists
its objects by namespace and name, all namespaces when none is given. A replace of a missing
object answers 404, of an object whose version differs 409, and otherwise stores the object
under the name its path gives, with the next version. Anything else answers 405, naming the
method and path. A watch never answers.
-/

set_option autoImplicit false

namespace ConfigRollout

/-- An object kept by the API server. -/
inductive Resource where
  | workload (w : Workload)
  | config (o : ConfigObject)
  deriving DecidableEq, Repr, Inhabited

namespace Resource

/-- The plural of the object's kind, as in its paths. -/
def plural : Resource → String
  | .workload w => w.kind.plural
  | .config o => o.kind.plural

/-- The name of the object's kind. -/
def kindName : Resource → String
  | .workload w => w.kind.name
  | .config o => o.kind.name

/-- The object's metadata. -/
def metadata : Resource → ObjectMeta
  | .workload w => w.metadata
  | .config o => o.metadata

/-- The object with its metadata replaced. -/
def setMetadata : Resource → ObjectMeta → Resource
  | .workload w, m => .workload { w with metadata := m }
  | .config o, m => .config (o.setMetadata m)

end Resource

/-- The plurals of the kinds in the core group; the others are in the `apps` group. -/
def corePlurals : List String := ["configmaps", "secrets"]

/-- The path prefix of a plural's group. -/
def groupPrefix (plural : String) : String :=
  if corePlurals.contains plural then "/api/v1" else "/apis/apps/v1"

/-- What a request is about. -/
inductive Target where
  /-- One object. -/
  | item (plural ns name : String)
  /-- The objects of a kind, in one namespace or in all. -/
  | collection (plural : String) (ns : Option String)
  /-- Events of a namespace, or one of them. -/
  | events (ns : String) (name : Option String)
  deriving DecidableEq, Repr, Inhabited

/-- The path of a target. -/
def Target.path : Target → String
  | .item plural ns name => groupPrefix plural ++ "/namespaces/" ++ ns ++ "/" ++ plural ++ "/" ++ name
  | .collection plural (some ns) => groupPrefix plural ++ "/namespaces/" ++ ns ++ "/" ++ plural
  | .collection plural none => groupPrefix plural ++ "/" ++ plural
  | .events ns none => "/apis/events.k8s.io/v1/namespaces/" ++ ns ++ "/events"
  | .events ns (some name) => "/apis/events.k8s.io/v1/namespaces/" ++ ns ++ "/events/" ++ name

/-- Whether a plural names one of the three workload kinds. -/
def appsPlural (plural : String) : Bool :=
  WorkloadKind.all.any (·.plural == plural)

/-- The target a path names, read segment by segment, when the server serves it. -/
def Target.ofPath? (path : String) : Option Target :=
  match path.splitOn "/" with
  | ["", "api", "v1", "namespaces", ns, plural] =>
    if corePlurals.contains plural then some (.collection plural (some ns)) else none
  | ["", "api", "v1", "namespaces", ns, plural, name] =>
    if corePlurals.contains plural then some (.item plural ns name) else none
  | ["", "api", "v1", plural] =>
    if corePlurals.contains plural then some (.collection plural none) else none
  | ["", "apis", "apps", "v1", "namespaces", ns, plural] =>
    if appsPlural plural then some (.collection plural (some ns)) else none
  | ["", "apis", "apps", "v1", "namespaces", ns, plural, name] =>
    if appsPlural plural then some (.item plural ns name) else none
  | ["", "apis", "apps", "v1", plural] =>
    if appsPlural plural then some (.collection plural none) else none
  | ["", "apis", "events.k8s.io", "v1", "namespaces", ns, "events"] => some (.events ns none)
  | ["", "apis", "events.k8s.io", "v1", "namespaces", ns, "events", name] =>
    some (.events ns (some name))
  | _ => none

/-- An event as the recorder sends it. -/
structure EventRecord where
  /-- The namespace the event is recorded in. -/
  ns : String
  reason : String
  /-- The object the event is about. -/
  regarding : ObjectRef
  note : String
  deriving DecidableEq, Repr, Inhabited

/-- The methods the program uses. -/
inductive Method where
  | get
  | put
  | post
  | patch
  deriving DecidableEq, Repr, Inhabited

/-- The method's name. -/
def Method.name : Method → String
  | .get => "GET"
  | .put => "PUT"
  | .post => "POST"
  | .patch => "PATCH"

/-- What a request carries. -/
inductive Payload where
  | empty
  | resource (r : Resource)
  | event (e : EventRecord)
  deriving DecidableEq, Repr, Inhabited

/-- A request as it reaches the API server: its method, the path of its URI, and whether it
asks to watch. -/
structure Request where
  method : Method
  path : String
  /-- Whether a collection read asks to watch. -/
  watch : Bool := false
  payload : Payload := .empty
  deriving DecidableEq, Repr, Inhabited

/-- The body of an answer. -/
inductive Body where
  /-- One stored object. -/
  | resource (r : Resource)
  /-- A list of stored objects. -/
  | items (rs : List Resource)
  /-- An echoed event. -/
  | event (e : EventRecord)
  /-- A JSON value. -/
  | json (j : Json)
  /-- Raw text. -/
  | text (s : String)
  deriving Repr, Inhabited

/-- An answer of the API server. -/
structure Response where
  status : Nat
  body : Body
  deriving Repr, Inhabited

/-- A fixed answer to every request with a method and path. -/
structure Override where
  method : String
  path : String
  status : Nat
  /-- The body: text for a JSON string, JSON for any other value; none for the default. -/
  body : Option Json
  deriving Repr, Inhabited

/-- The answer an override gives. A string body is sent as text, any other value as JSON, and
without a body a failure status names the injected failure. -/
def Override.response (o : Override) : Response :=
  match o.body with
  | some (.str s) => ⟨o.status, .text s⟩
  | some j => ⟨o.status, .json j⟩
  | none => ⟨o.status, .json (.obj [("kind", .str "Status"), ("apiVersion", .str "v1"),
      ("metadata", .obj []), ("status", .str "Failure"), ("message", .str "injected failure"),
      ("reason", .str "Injected"), ("code", .int o.status)])⟩

/-- A failure status of the server. -/
def statusBody (message reason : String) (code : Nat) : Body :=
  .json (.obj [("kind", .str "Status"), ("status", .str "Failure"), ("message", .str message),
    ("reason", .str reason), ("code", .int code)])

/-- Where the server keeps an object: plural, namespace (empty when absent) and name. -/
structure ApiKey where
  plural : String
  ns : String
  name : String
  deriving DecidableEq, Repr, Inhabited

/-- The key of an object. -/
def Resource.key (r : Resource) : ApiKey :=
  ⟨r.plural, r.metadata.nsOrEmpty, r.metadata.name.getD ""⟩

/-- The API server's state: its objects and its overrides. -/
structure ApiServer where
  objects : List (ApiKey × Resource) := []
  overrides : List Override := []
  deriving Inhabited

namespace ApiServer

/-- The server with an object written by someone else: the next version, and a uid made from
the name when it has none. -/
def put (s : ApiServer) (r : Resource) : ApiServer :=
  let k := r.key
  let stored := Table.lookup k s.objects
  let md := r.metadata
  let md := { md with resourceVersion := some (nextVersion (stored.bind (·.metadata.resourceVersion))) }
  let md := if md.uid.isNone then { md with uid := some ("uid-" ++ md.name.getD "") } else md
  { s with objects := Table.upsert k (r.setMetadata md) s.objects }

/-- The override of a method and path; a later override of the same request wins. -/
def override? (s : ApiServer) (method path : String) : Option Override :=
  (s.overrides.reverse.find? (fun o => o.method == method && o.path == path))

/-- The stored objects of a plural, in one namespace or all, by namespace and name. -/
def collection (s : ApiServer) (plural : String) (ns : Option String) : List Resource :=
  let found := s.objects.filter (fun e => e.1.plural == plural && (ns.all (· == e.1.ns)))
  (found.mergeSort (fun a b => lexLe [a.1.ns, a.1.name] [b.1.ns, b.1.name])).map Prod.snd

/-- The failure of a missing object. -/
def notFoundBody (plural name : String) : Body :=
  statusBody (plural ++ " \"" ++ name ++ "\" not found") "NotFound" 404

/-- The answer to a request, and the server after it; none for a watch, which never answers. -/
def answer (s : ApiServer) (req : Request) : Option Response × ApiServer :=
  match s.override? req.method.name req.path with
  | some o => (some o.response, s)
  | none =>
    match req.method, Target.ofPath? req.path, req.payload with
    | .get, some (.item plural ns name), _ =>
      match Table.lookup ⟨plural, ns, name⟩ s.objects with
      | some r => (some ⟨200, .resource r⟩, s)
      | none => (some ⟨404, notFoundBody plural name⟩, s)
    | .get, some (.collection plural ns), _ =>
      if req.watch then (none, s) else (some ⟨200, .items (s.collection plural ns)⟩, s)
    | .put, some (.item plural ns name), .resource r =>
      let k : ApiKey := ⟨plural, ns, name⟩
      match Table.lookup k s.objects with
      | none => (some ⟨404, notFoundBody plural name⟩, s)
      | some stored =>
        if stored.metadata.resourceVersion ≠ r.metadata.resourceVersion then
          (some ⟨409, statusBody ("Operation cannot be fulfilled on " ++ plural ++ " \"" ++ name ++
            "\": the object has been modified; please apply your changes to the latest version and try again")
            "Conflict" 409⟩, s)
        else
          let updated := r.setMetadata { r.metadata with
            resourceVersion := some (nextVersion stored.metadata.resourceVersion) }
          (some ⟨200, .resource updated⟩, { s with objects := Table.upsert k updated s.objects })
    | .post, some (.events _ none), .event e => (some ⟨201, .event e⟩, s)
    | .patch, some (.events _ (some _)), .event e => (some ⟨200, .event e⟩, s)
    | method, _, _ =>
      let message := method.name ++ " " ++ req.path ++ " is not supported"
      (some ⟨405, statusBody message "MethodNotAllowed" 405⟩, s)

/-- The stored objects, by plural, namespace and name. -/
def listing (s : ApiServer) : List Resource :=
  (s.objects.mergeSort (fun a b => lexLe [a.1.plural, a.1.ns, a.1.name] [b.1.plural, b.1.ns, b.1.name])).map Prod.snd

end ApiServer

end ConfigRollout
