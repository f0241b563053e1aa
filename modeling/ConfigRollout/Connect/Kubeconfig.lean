import ConfigRollout.Yaml.Value
import ConfigRollout.Connect.Uri
import ConfigRollout.Connect.Host
import ConfigRollout.Connect.Pem

/-!
# Kubeconfig files

A kubeconfig file names clusters, contexts and users, and the current context. Each document
of the file is decoded on its own, the way a typed reader does: fields are read in the order
they are written, a key must be a string and a field may appear only once, unknown fields are
ignored, a missing or null list or map is empty, tags are looked through, a wrong type fails
with the value found and the type expected, and a missing name fails after the other fields.
A relative path in a document (a certificate authority, a client certificate or key, a token
file) is taken relative to the file's directory. The documents are then merged, the first of
each name winning; their kinds and API versions must agree.

A user's credentials are kept whole: a name and password, a token or token file, client
certificate and key (inline or as files), the user and groups to act as, an authentication
provider with its settings, or a command (`exec`) that prints credentials.
-/

set_option autoImplicit false

namespace ConfigRollout.Connect

open Yaml

/-- A cluster's connection settings. -/
structure ClusterInfo where
  server : Option String := none
  insecureSkipTlsVerify : Option Bool := none
  certificateAuthority : Option String := none
  certificateAuthorityData : Option String := none
  proxyUrl : Option String := none
  tlsServerName : Option String := none
  disableCompression : Option Bool := none
  deriving Repr, Inhabited

structure NamedCluster where
  name : String
  cluster : Option ClusterInfo
  deriving Repr, Inhabited

/-- A context: the cluster and user it joins, and its namespace. -/
structure ContextInfo where
  cluster : String
  user : Option String := none
  ns : Option String := none
  deriving Repr, Inhabited

structure NamedContext where
  name : String
  context : Option ContextInfo
  deriving Repr, Inhabited

/-- An authentication provider: its name and its settings. -/
structure AuthProvider where
  name : String
  config : List (String × String) := []
  deriving Repr, Inhabited

/-- Whether a credential command may talk to the user. -/
inductive InteractiveMode where
  | never
  | ifAvailable
  | always
  deriving DecidableEq, Repr, Inhabited

/-- A command that prints credentials: the command, its arguments, extra environment entries
(maps, of which `name` and `value` count), the credential format version, whether it may talk
to the user, and whether it is told about the cluster. -/
structure ExecConfig where
  apiVersion : Option String := none
  command : Option String := none
  args : Option (List String) := none
  env : Option (List (List (String × String))) := none
  interactiveMode : Option InteractiveMode := none
  provideClusterInfo : Bool := false
  deriving Repr, Inhabited

/-- A user's credentials. -/
structure AuthInfo where
  username : Option String := none
  password : Option String := none
  token : Option String := none
  tokenFile : Option String := none
  clientCertificate : Option String := none
  clientCertificateData : Option String := none
  clientKey : Option String := none
  clientKeyData : Option String := none
  impersonate : Option String := none
  impersonateGroups : Option (List String) := none
  authProvider : Option AuthProvider := none
  exec : Option ExecConfig := none
  deriving Repr, Inhabited

structure NamedUser where
  name : String
  user : Option AuthInfo := none
  deriving Repr, Inhabited

/-- The contents of a kubeconfig. -/
structure Kubeconfig where
  clusters : List NamedCluster := []
  users : List NamedUser := []
  contexts : List NamedContext := []
  currentContext : Option String := none
  kind : Option String := none
  apiVersion : Option String := none
  deriving Repr, Inhabited

/-! ## Decoding -/

/-- A decoding failure, as the typed reader words it. -/
def invalidTypeOf (v : Value) (expected : String) : String :=
  invalidType v.unexpected expected

def readString (v : Value) : Except String String :=
  match v.untag with
  | .str s => .ok s
  | w => .error (invalidTypeOf w "a string")

/-- An optional field: `null` reads as absent, anything else as the field's type. -/
def readOptional {α : Type} (read : Value → Except String α) : Value → Except String (Option α)
  | .null => .ok none
  | v => some <$> read v

def readOptString : Value → Except String (Option String) :=
  readOptional readString

def readBool (v : Value) : Except String Bool :=
  match v.untag with
  | .bool b => .ok b
  | w => .error (invalidTypeOf w "a boolean")

/-- The entries of a value read as a record of a type; null reads as no entries. -/
def recordEntries (typeName : String) (v : Value) : Except String (List (Value × Value)) :=
  match v.untag with
  | .map es => .ok es
  | .null => .ok []
  | w => .error (invalidTypeOf w ("struct " ++ typeName))

/-- A list; null reads as the empty list. -/
def readList {α : Type} (item : Value → Except String α) (v : Value) : Except String (List α) :=
  match v.untag with
  | .null => .ok []
  | .seq items => items.mapM item
  | w => .error (invalidTypeOf w "a sequence")

/-- A mapping key of a JSON value: a string; the first key of an object is expected as
"a string key" and the others as "a string". -/
def readJsonKey (first : Bool) (v : Value) : Except String Unit :=
  match v.untag with
  | .str _ => .ok ()
  | w => .error (invalidTypeOf w (if first then "a string key" else "a string"))

mutual
/-- A value that can stand for JSON: no tagged values, and only strings as mapping keys. -/
def readJsonValue : Value → Except String Unit
  | .tagged .. => .error (invalidType "enum" "any valid JSON value")
  | .seq items => readJsonItems items
  | .map entries => readJsonEntries true entries
  | _ => .ok ()

def readJsonItems : List Value → Except String Unit
  | [] => .ok ()
  | v :: rest => do readJsonValue v; readJsonItems rest

def readJsonEntries (first : Bool) : List (Value × Value) → Except String Unit
  | [] => .ok ()
  | (k, v) :: rest => do
    readJsonKey first k
    readJsonValue v
    readJsonEntries false rest
end

/-- A required field that was not written. -/
def required {α : Type} (name : String) : Option α → Except String α
  | some a => .ok a
  | none => .error ("missing field `" ++ name ++ "`")

/-- Reads the fields of a record in the order written. A key must be a string; a field the
record knows may appear once and is read by `step`, and other fields are skipped. -/
def readFields {α : Type} (known : List String) (step : α → String → Value → Except String α)
    (init : α) (entries : List (Value × Value)) : Except String α := do
  let (acc, _) ← entries.foldlM (fun (st : α × List String) (e : Value × Value) => do
    let name ← match e.1.untag with
      | .str s => pure s
      | w => .error (invalidTypeOf w "field identifier")
    if known.contains name then
      if st.2.contains name then .error ("duplicate field `" ++ name ++ "`")
      else pure (← step st.1 name e.2, name :: st.2)
    else pure st) (init, [])
  pure acc

/-- A named extension: its name and an extension value that can stand for JSON. -/
def readNamedExtension (v : Value) : Except String Unit := do
  let es ← recordEntries "NamedExtension" v
  let (name, ext) ← readFields ["name", "extension"]
    (fun (acc : Option String × Bool) field value =>
      match field with
      | "name" => do pure (some (← readString value), acc.2)
      | _ => do readJsonValue value; pure (acc.1, true)) (none, false) es
  let _ ← required "name" name
  let _ ← required "extension" (if ext then some () else none)
  pure ()

def readExtensions (v : Value) : Except String Unit := do
  let _ ← readOptional (readList readNamedExtension) v
  pure ()

def readOptBool : Value → Except String (Option Bool) :=
  readOptional readBool

def readClusterInfo (v : Value) : Except String ClusterInfo := do
  let es ← recordEntries "Cluster" v
  readFields ["server", "insecure-skip-tls-verify", "certificate-authority",
      "certificate-authority-data", "proxy-url", "tls-server-name", "extensions",
      "disable-compression"]
    (fun (c : ClusterInfo) field value =>
      match field with
      | "server" => do pure { c with server := ← readOptString value }
      | "insecure-skip-tls-verify" => do pure { c with insecureSkipTlsVerify := ← readOptBool value }
      | "certificate-authority" => do pure { c with certificateAuthority := ← readOptString value }
      | "certificate-authority-data" => do
        pure { c with certificateAuthorityData := ← readOptString value }
      | "proxy-url" => do pure { c with proxyUrl := ← readOptString value }
      | "tls-server-name" => do pure { c with tlsServerName := ← readOptString value }
      | "disable-compression" => do pure { c with disableCompression := ← readOptBool value }
      | _ => do readExtensions value; pure c) {} es

def readNamedCluster (v : Value) : Except String NamedCluster := do
  let es ← recordEntries "NamedCluster" v
  let (name, cluster) ← readFields ["name", "cluster"]
    (fun (acc : Option String × Option ClusterInfo) field value =>
      match field with
      | "name" => do pure (some (← readString value), acc.2)
      | _ => do pure (acc.1, ← readOptional readClusterInfo value)) (none, none) es
  pure { name := ← required "name" name, cluster := cluster }

def readContextInfo (v : Value) : Except String ContextInfo := do
  let es ← recordEntries "Context" v
  let (cluster, user, ns) ← readFields ["cluster", "user", "namespace", "extensions"]
    (fun (acc : Option String × Option String × Option String) field value =>
      match field with
      | "cluster" => do pure (some (← readString value), acc.2)
      | "user" => do pure (acc.1, ← readOptString value, acc.2.2)
      | "namespace" => do pure (acc.1, acc.2.1, ← readOptString value)
      | _ => do readExtensions value; pure acc) (none, none, none) es
  pure { cluster := ← required "cluster" cluster, user := user, ns := ns }

def readNamedContext (v : Value) : Except String NamedContext := do
  let es ← recordEntries "NamedContext" v
  let (name, context) ← readFields ["name", "context"]
    (fun (acc : Option String × Option ContextInfo) field value =>
      match field with
      | "name" => do pure (some (← readString value), acc.2)
      | _ => do pure (acc.1, ← readOptional readContextInfo value)) (none, none) es
  pure { name := ← required "name" name, context := context }

/-- A map of strings to strings; null reads as the empty map. -/
def readStringMap (v : Value) : Except String (List (String × String)) :=
  match v.untag with
  | .null => .ok []
  | .map es => es.mapM (fun (e : Value × Value) => do pure (← readString e.1, ← readString e.2))
  | w => .error (invalidTypeOf w "a map")

/-- The names of the interaction modes, in order. -/
def interactiveModeNames : List String := ["Never", "IfAvailable", "Always"]

/-- An interaction mode by its name. -/
def InteractiveMode.ofName? : String → Option InteractiveMode
  | "Never" => some .never
  | "IfAvailable" => some .ifAvailable
  | "Always" => some .always
  | _ => none

/-- An interaction mode: a name, or a tag naming one over an empty value. -/
def readInteractiveMode (v : Value) : Except String InteractiveMode :=
  let unknown (name : String) : String :=
    "unknown variant `" ++ name ++ "`, expected one of `Never`, `IfAvailable`, `Always`"
  match v with
  | .str name =>
    match InteractiveMode.ofName? name with
    | some m => .ok m
    | none => .error (unknown name)
  | .tagged tag inner =>
    let name := if tag.startsWith "!" then String.ofList (tag.toList.drop 1) else tag
    match InteractiveMode.ofName? name with
    | none => .error (unknown name)
    | some m =>
      match inner with
      | .null => .ok m
      | w => .error (invalidTypeOf w "unit")
  | w => .error (invalidTypeOf w "a Value::Tagged enum")

def readAuthProvider (v : Value) : Except String AuthProvider := do
  let es ← recordEntries "AuthProviderConfig" v
  let (name, config) ← readFields ["name", "config"]
    (fun (acc : Option String × List (String × String)) field value =>
      match field with
      | "name" => do pure (some (← readString value), acc.2)
      | _ => do pure (acc.1, ← readStringMap value)) (none, []) es
  pure { name := ← required "name" name, config := config }

def readExecConfig (v : Value) : Except String ExecConfig := do
  let es ← recordEntries "ExecConfig" v
  readFields ["apiVersion", "command", "args", "env", "interactiveMode", "provideClusterInfo"]
    (fun (c : ExecConfig) field value =>
      match field with
      | "apiVersion" => do pure { c with apiVersion := ← readOptString value }
      | "command" => do pure { c with command := ← readOptString value }
      | "args" => do pure { c with args := ← readOptional (readList readString) value }
      | "env" => do pure { c with env := ← readOptional (readList readStringMap) value }
      | "interactiveMode" => do
        pure { c with interactiveMode := ← readOptional readInteractiveMode value }
      | _ => do pure { c with provideClusterInfo := ← readBool value }) {} es

/-- The credentials of a user. -/
def readAuthInfo (v : Value) : Except String AuthInfo := do
  let es ← recordEntries "AuthInfo" v
  readFields ["username", "password", "token", "tokenFile", "client-certificate",
      "client-certificate-data", "client-key", "client-key-data", "as", "as-groups",
      "auth-provider", "exec"]
    (fun (a : AuthInfo) field value =>
      match field with
      | "username" => do pure { a with username := ← readOptString value }
      | "password" => do pure { a with password := ← readOptString value }
      | "token" => do pure { a with token := ← readOptString value }
      | "tokenFile" => do pure { a with tokenFile := ← readOptString value }
      | "client-certificate" => do pure { a with clientCertificate := ← readOptString value }
      | "client-certificate-data" => do
        pure { a with clientCertificateData := ← readOptString value }
      | "client-key" => do pure { a with clientKey := ← readOptString value }
      | "client-key-data" => do pure { a with clientKeyData := ← readOptString value }
      | "as" => do pure { a with impersonate := ← readOptString value }
      | "as-groups" => do
        pure { a with impersonateGroups := ← readOptional (readList readString) value }
      | "auth-provider" => do pure { a with authProvider := ← readOptional readAuthProvider value }
      | _ => do pure { a with exec := ← readOptional readExecConfig value }) {} es

def readNamedUser (v : Value) : Except String NamedUser := do
  let es ← recordEntries "NamedAuthInfo" v
  let (name, user) ← readFields ["name", "user"]
    (fun (acc : Option String × Option AuthInfo) field value =>
      match field with
      | "name" => do pure (some (← readString value), acc.2)
      | _ => do pure (acc.1, ← readOptional readAuthInfo value)) (none, none) es
  pure { name := ← required "name" name, user := user }

def readPreferences (v : Value) : Except String Unit := do
  let es ← recordEntries "Preferences" v
  readFields ["colors", "extensions"]
    (fun (_ : Unit) field value =>
      match field with
      | "colors" => do let _ ← readOptional readBool value; pure ()
      | _ => readExtensions value) () es

/-- Decodes one document of a kubeconfig file. -/
def readKubeconfig (v : Value) : Except String Kubeconfig := do
  let es ← recordEntries "Kubeconfig" v
  readFields ["preferences", "clusters", "users", "contexts", "current-context", "extensions",
      "kind", "apiVersion"]
    (fun (k : Kubeconfig) field value =>
      match field with
      | "clusters" => do pure { k with clusters := ← readList readNamedCluster value }
      | "users" => do pure { k with users := ← readList readNamedUser value }
      | "contexts" => do pure { k with contexts := ← readList readNamedContext value }
      | "current-context" => do pure { k with currentContext := ← readOptString value }
      | "kind" => do pure { k with kind := ← readOptString value }
      | "apiVersion" => do pure { k with apiVersion := ← readOptString value }
      | "preferences" => do let _ ← readOptional readPreferences value; pure k
      | _ => do readExtensions value; pure k) {} es

/-! ## Errors -/

/-- Why data for a connection cannot be had. -/
inductive LoadDataError where
  | decodeBase64 (e : Base64.DecodeError)
  | readFile (path : String) (e : IoError)
  | noBase64DataOrFile
  deriving Repr, Inhabited

def LoadDataError.message : LoadDataError → String
  | .decodeBase64 e => "failed to decode base64 data: " ++ e.message
  | .readFile path e => "failed to read file '" ++ Text.escaped path ++ "': " ++ e.message
  | .noBase64DataOrFile => "no base64 data or file"

def LoadDataError.causes : LoadDataError → List String
  | .decodeBase64 e => [e.message]
  | .readFile _ e => [e.message]
  | .noBase64DataOrFile => []

/-- Why no client configuration comes out of a kubeconfig. -/
inductive KubeconfigError where
  /-- No path to look for a kubeconfig at. -/
  | findPath
  /-- The file is not there. -/
  | readConfig (path : String)
  /-- A document is not YAML. -/
  | parse (reason : String)
  /-- A document is YAML but not a kubeconfig. -/
  | invalidStructure (reason : String)
  | kindMismatch
  | apiVersionMismatch
  | currentContextNotSet
  | loadContext (name : String)
  | loadClusterOfContext (name : String)
  | missingClusterUrl
  | parseClusterUrl (reason : UriError)
  | loadCertificateAuthority (e : LoadDataError)
  | parseCertificates (e : PemError)
  | parseProxyUrl (reason : UriError)
  deriving Repr, Inhabited

/-- The failure from a missing file. -/
def notFoundText : String := "No such file or directory (os error 2)"

def KubeconfigError.message : KubeconfigError → String
  | .findPath => "failed to find the path of kubeconfig"
  | .readConfig path => "failed to read kubeconfig from '" ++ Text.escaped path ++ "': " ++ notFoundText
  | .parse reason => "failed to parse kubeconfig YAML: " ++ reason
  | .invalidStructure reason => "the structure of the parsed kubeconfig is invalid: " ++ reason
  | .kindMismatch => "kubeconfigs with mismatching kind cannot be merged"
  | .apiVersionMismatch => "kubeconfigs with mismatching api version cannot be merged"
  | .currentContextNotSet => "failed to determine current context"
  | .loadContext name => "failed to load current context: " ++ name
  | .loadClusterOfContext name => "failed to load the cluster of context: " ++ name
  | .missingClusterUrl => "cluster url is missing on selected cluster"
  | .parseClusterUrl reason => "failed to parse cluster url: " ++ reason.message
  | .loadCertificateAuthority _ => "failed to load certificate authority"
  | .parseCertificates e => "failed to parse PEM-encoded certificates: " ++ e.message
  | .parseProxyUrl reason => "failed to parse proxy url: " ++ reason.message

/-- The causes under an error, outermost first. -/
def KubeconfigError.causes : KubeconfigError → List String
  | .readConfig _ => [notFoundText]
  | .parse reason => [reason]
  | .invalidStructure reason => [reason]
  | .parseClusterUrl reason => [reason.message]
  | .loadCertificateAuthority e => e.message :: e.causes
  | .parseCertificates e => e.message :: e.causes
  | .parseProxyUrl reason => [reason.message]
  | _ => []

/-! ## Reading -/

/-- Appends the entries of a list whose names the first list does not have yet. -/
def appendNew {α : Type} (name : α → String) (base next : List α) : List α :=
  base ++ next.filter (fun x => !base.any (fun y => name y == name x))

/-- Merges a later kubeconfig into an earlier one; the earlier one wins. -/
def Kubeconfig.merge (a b : Kubeconfig) : Except KubeconfigError Kubeconfig :=
  if a.kind.isSome && b.kind.isSome && a.kind != b.kind then .error .kindMismatch
  else if a.apiVersion.isSome && b.apiVersion.isSome && a.apiVersion != b.apiVersion then
    .error .apiVersionMismatch
  else .ok {
    clusters := appendNew (·.name) a.clusters b.clusters,
    users := appendNew (·.name) a.users b.users,
    contexts := appendNew (·.name) a.contexts b.contexts,
    currentContext := a.currentContext.or b.currentContext,
    kind := a.kind.or b.kind,
    apiVersion := a.apiVersion.or b.apiVersion }

/-- A path taken relative to a directory unless it is absolute. -/
def absolutePath (dir path : String) : String :=
  if path.startsWith "/" then path
  else if dir.endsWith "/" then dir ++ path
  else dir ++ "/" ++ path

/-- A document with its relative paths taken relative to a directory. -/
def Kubeconfig.absolute (dir : String) (k : Kubeconfig) : Kubeconfig :=
  let fix := Option.map (absolutePath dir)
  { k with
    clusters := k.clusters.map fun c =>
      { c with cluster := c.cluster.map fun i =>
        { i with certificateAuthority := fix i.certificateAuthority } }
    users := k.users.map fun u =>
      { u with user := u.user.map fun a =>
        { a with clientCertificate := fix a.clientCertificate, clientKey := fix a.clientKey,
                 tokenFile := fix a.tokenFile } } }

def documentsAux : Nat → YamlStream → List Kubeconfig → Except KubeconfigError (List Kubeconfig)
  | 0, _, acc => .ok acc.reverse
  | n + 1, s, acc =>
    match s.next with
    | (none, _) => .ok acc.reverse
    | (some (.error reason), _) => .error (.parse reason)
    | (some (.ok v), s) =>
      match readKubeconfig v with
      | .ok k => documentsAux n s (k :: acc)
      | .error reason => .error (.invalidStructure reason)

/-- The documents of a kubeconfig text, each decoded. -/
def documents (text : String) : Except KubeconfigError (List Kubeconfig) :=
  documentsAux (text.length + 2) (YamlStream.ofString text) []

/-- Reads a kubeconfig text found in a directory: its documents, with their relative paths
taken relative to the directory, merged in order. -/
def Kubeconfig.read (dir : String) (text : String) : Except KubeconfigError Kubeconfig := do
  match (← documents text).map (Kubeconfig.absolute dir) with
  | [] => .ok {}
  | k :: rest => rest.foldlM Kubeconfig.merge k

end ConfigRollout.Connect
