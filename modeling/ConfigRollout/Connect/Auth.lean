import ConfigRollout.Connect.Loader
import ConfigRollout.Connect.Host
import ConfigRollout.Object.Read
import ConfigRollout.Data.Json.Render

/-!
# Credentials

A user's credentials are resolved in a fixed order, the first that applies winning:

1. an authentication provider: `oidc` needs an `id-token` setting; `gcp` takes an `id-token`,
   then an `access-token` whose `expiry` is still a minute away, then the output of the
   command `cmd-path`, and otherwise fails; any other provider is not supported;
2. a user name together with a password;
3. a token, then a token file, which must be readable text;
4. a credential command (`exec`): it runs with its arguments and environment, plus
   `KUBERNETES_EXEC_INFO` describing the request, must exit with status 0, and must print an
   `ExecCredential` in JSON with a status. A client certificate and key in the status win;
   otherwise an expiry, when given, must be a valid time, and a token is used;
5. otherwise, no credentials.

A command that cannot start, exits with another status or prints something else fails with
what went wrong, the command and its output described as a debugging dump shows them.
-/

set_option autoImplicit false

namespace ConfigRollout.Connect

/-- Why credentials cannot be had. -/
inductive AuthError where
  /-- A provider or its command failed, with the reason. -/
  | authExec (reason : String)
  | missingCommand
  | execStart (e : IoError)
  /-- A command exited with another status: the command, its status and its output. -/
  | execRun (command : String) (status : Nat) (output : String)
  | execParse (reason : String)
  | execPluginFailed
  | malformedExpiration (reason : String)
  | readTokenFile (path : String) (e : IoError)
  deriving Repr, Inhabited

def AuthError.message : AuthError → String
  | .authExec reason => "failed exec auth: " ++ reason
  | .missingCommand => "command must be specified to use exec authentication plugin"
  | .execStart e => "unable to run auth exec: " ++ e.message
  | .execRun command status output =>
    "auth exec command '" ++ command ++ "' failed with status exit status: " ++ toString status ++
      ": " ++ output
  | .execParse reason => "failed to parse auth exec output: " ++ reason
  | .execPluginFailed => "exec-plugin response did not contain a status"
  | .malformedExpiration reason => "malformed token expiration date: " ++ reason
  | .readTokenFile path e => "failed to read token file '" ++ Text.escaped path ++ "': " ++ e.message

def AuthError.causes : AuthError → List String
  | .execStart e => [e.message]
  | .execParse reason => [reason]
  | .malformedExpiration reason => [reason]
  | .readTokenFile _ e => [e.message]
  | _ => []

/-- Resolved credentials. -/
inductive Credentials where
  | none
  | basic (user password : String)
  | bearer (token : String)
  /-- A token that is read again when it expires. -/
  | refreshable
  /-- A client certificate and key, both PEM text. -/
  | certificate (cert key : String)
  deriving DecidableEq, Repr, Inhabited

/-- A setting of a provider; a repeated one counts last. -/
def setting (config : List (String × String)) (name : String) : Option String :=
  (config.reverse.find? (·.1 == name)).map (·.2)

/-- The time the credentials are resolved at, as seconds since the epoch. -/
def resolutionTime : Int := 1793491200

/-! ## Debugging dumps -/

/-- Bytes as a dump shows them: as a quoted string when they are UTF-8, else as a list. -/
def bytesDump (bytes : List UInt8) : String :=
  match utf8Fault? bytes with
  | none => Text.escaped (lossyText bytes)
  | some _ => "[" ++ String.intercalate ", " (bytes.map (fun b => toString b.toNat)) ++ "]"

/-- The dump of a finished command's output. -/
def Output.dump (o : Output) : String :=
  "Output \x7b status: ExitStatus(unix_wait_status(" ++ toString (o.status * 256) ++
    ")), stdout: " ++ bytesDump o.stdout ++ ", stderr: " ++ bytesDump o.stderr ++ " \x7d"

/-- A command as a dump shows it: its environment entries, then the program and its
arguments, each quoted. -/
def commandDump (environment : List (String × String)) (program : String)
    (args : List String) : String :=
  String.join (environment.map (fun (k, v) => k ++ "=" ++ Text.escaped v ++ " ")) ++
    Text.escaped program ++ String.join (args.map (fun a => " " ++ Text.escaped a))

/-- Sets an environment entry, replacing one of the same name, keeping names in order. -/
def setEntry (environment : List (String × String)) (entry : String × String) :
    List (String × String) :=
  let rest := environment.filter (·.1 != entry.1)
  (rest ++ [entry]).mergeSort (fun a b => a.1 ≤ b.1)

/-! ## Credential commands -/

/-- The cluster as JSON, its absent fields left out. -/
def ExecCluster.json (c : ExecCluster) : Json :=
  .obj ((c.server.map (fun s => ("server", Json.str s))).toList ++
    (c.insecureSkipTlsVerify.map (fun b => ("insecure-skip-tls-verify", Json.bool b))).toList ++
    (c.certificateAuthorityData.map
      (fun d => ("certificate-authority-data", Json.str (Base64.encode d)))).toList ++
    (c.proxyUrl.map (fun s => ("proxy-url", Json.str s))).toList ++
    (c.tlsServerName.map (fun s => ("tls-server-name", Json.str s))).toList)

/-- The request a credential command is given in `KUBERNETES_EXEC_INFO`. -/
def execInfo (e : ExecConfig) (interactive : Bool) (cluster : Option ExecCluster) : String :=
  let clusterMember := if e.provideClusterInfo then
    (cluster.map (fun c => ("cluster", c.json))).toList else []
  Json.render (.obj [("kind", .str "ExecCredential"),
    ("apiVersion", (e.apiVersion.map Json.str).getD .null),
    ("spec", .obj ([("interactive", .bool interactive)] ++ clusterMember))])

/-- The shape of the cluster in a credential. -/
def execAuthClusterShape : Shape := .record "ExecAuthCluster" false [
  ("server", .string, .optional), ("insecure-skip-tls-verify", .bool, .optional),
  ("certificate-authority-data", .bytes, .optional), ("proxy-url", .string, .optional),
  ("tls-server-name", .string, .optional), ("config", .any, .optional)]

/-- The shape of the status of a credential. -/
def execCredentialStatusShape : Shape := .record "ExecCredentialStatus" false [
  ("expirationTimestamp", .string, .optional), ("token", .string, .optional),
  ("clientCertificateData", .string, .optional), ("clientKeyData", .string, .optional)]

/-- The shape of a credential as a command prints it. -/
def execCredentialShape : Shape := .record "ExecCredential" false [
  ("kind", .string, .optional), ("apiVersion", .string, .optional),
  ("spec", .record "ExecCredentialSpec" false [("interactive", .bool, .optional),
    ("cluster", execAuthClusterShape, .optional)], .optional),
  ("status", execCredentialStatusShape, .optional)]

/-- A string member of a read object, none when absent or null. -/
def stringMember (j : Json) (name : String) : Option String :=
  (j.field? name).bind Json.str?

/-- Runs a credential command: the credentials its printed status gives. -/
def runExec (host : Host) (e : ExecConfig) (cluster : Option ExecCluster) :
    Except AuthError Credentials := do
  let command ← match e.command with
    | some c => pure c
    | none => throw .missingCommand
  let args := e.args.getD []
  let userEntries := (e.env.getD []).filterMap fun m =>
    match setting m "name", setting m "value" with
    | some n, some v => some (n, v)
    | _, _ => none
  let interactive := e.interactiveMode != some .never
  let environment := (userEntries ++ [("KUBERNETES_EXEC_INFO", execInfo e interactive cluster)]).foldl
    setEntry []
  let output ← (host.spawn command args (environment.map (fun (k, v) => k ++ v))).mapError
    AuthError.execStart
  if output.status != 0 then
    throw (.execRun (commandDump environment command args) output.status output.dump)
  let credential ← (Reader.readBytes execCredentialShape output.stdout.toArray).mapError
    (fun err => AuthError.execParse err.text)
  let status ← match credential.field? "status" with
    | some (.obj fields) => pure (Json.obj fields)
    | _ => throw .execPluginFailed
  match stringMember status "clientCertificateData", stringMember status "clientKeyData" with
  | some cert, some key => pure (.certificate cert key)
  | _, _ =>
    let expiry ← match stringMember status "expirationTimestamp" with
      | some ts =>
        match Text.readTime ts with
        | .ok t => pure (some t)
        | .error err => throw (.malformedExpiration err.message)
      | none => pure none
    match stringMember status "token", expiry with
    | some token, none => pure (.bearer token)
    | some _, some _ => pure .refreshable
    | none, _ => pure .none

/-! ## Providers -/

/-- The description of a UTF-8 fault in a dump. -/
def utf8FaultDump : Nat × Option Nat → String
  | (valid, len) =>
    "Utf8Error \x7b valid_up_to: " ++ toString valid ++ ", error_len: " ++
      (match len with
        | some n => "Some(" ++ toString n ++ ")"
        | none => "None") ++ " \x7d"

/-- The words of a setting split at single spaces, once trimmed. -/
def settingWords (s : String) : List String :=
  (Text.trim s).splitOn " "

/-- The token of the `gcp` provider's command. -/
def gcpCommandToken (host : Host) (config : List (String × String)) (command : String) :
    Except AuthError Credentials := do
  let params := (setting config "cmd-args").getD ""
  let output ← (host.spawn command (settingWords params) []).mapError
    (fun err => AuthError.authExec ("Executing " ++ command ++ " failed: " ++ err.dump))
  if output.status != 0 then
    throw (.execRun (command ++ " " ++ params) output.status output.dump)
  match setting config "token-key" with
  | some _ =>
    let _ ← (Reader.readBytes .any output.stdout.toArray).mapError
      (fun err => AuthError.execParse err.text)
    pure (.bearer "")
  | none =>
    match utf8Fault? output.stdout with
    | some fault => throw (.authExec ("Result is not a string " ++ utf8FaultDump fault ++ " "))
    | none => pure (.bearer (lossyText output.stdout))

/-- The token of the `gcp` provider. -/
def gcpToken (host : Host) (config : List (String × String)) : Except AuthError Credentials := do
  if let some token := setting config "id-token" then return .bearer token
  if let some _ := setting config "access-token" then
    if let some expiry := setting config "expiry" then
      match Text.readTime expiry with
      | .error err => throw (.malformedExpiration err.message)
      | .ok t => if resolutionTime + 60 < t.seconds then return .refreshable
  match setting config "cmd-path" with
  | some command => gcpCommandToken host config command
  | none =>
    throw (.authExec "Enable oauth feature to use Google Application Credentials-based token source")

/-- The credentials of an authentication provider. -/
def providerToken (host : Host) (p : AuthProvider) : Except AuthError Credentials :=
  match p.name with
  | "oidc" =>
    match setting p.config "id-token" with
    | some token => .ok (.bearer token)
    | none => .error (.authExec "No id-token for oidc Authentication provider")
  | "gcp" => gcpToken host p.config
  | name => .error (.authExec ("Authentication with provider " ++ name ++ " not supported"))

/-- Resolves a user's credentials. -/
def resolveCredentials (host : Host) (cluster : Option ExecCluster) (a : AuthInfo) :
    Except AuthError Credentials :=
  match a.authProvider with
  | some p => providerToken host p
  | none =>
    match a.username, a.password with
    | some u, some p => .ok (.basic u p)
    | _, _ =>
      match a.token with
      | some t => .ok (.bearer t)
      | none =>
        match a.tokenFile with
        | some path =>
          match host.readText path with
          | .ok _ => .ok .refreshable
          | .error e => .error (.readTokenFile path e)
        | none =>
          match a.exec with
          | some e => runExec host e cluster
          | none => .ok .none

end ConfigRollout.Connect
