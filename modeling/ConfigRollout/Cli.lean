import ConfigRollout.Settings
import ConfigRollout.Connect.Client

/-!
# Starting the program

What the program does before it reaches a cluster: it reads its settings from the
environment, then configures a client, first from the kubeconfig file and, failing that, from
the in-cluster environment, and builds the client. A failure ends the program with code 1 and
an error report on standard error: the error, a blank line, and its causes, numbered when
there are several. With settings and a client in hand the program keeps running.

Outside a cluster the in-cluster configuration always fails for want of its environment
variables, so a kubeconfig failure is reported together with that one. The machine the
program runs on has the kubeconfig file, when given, and nothing of the user's besides
(`Connect.Host`).
-/

set_option autoImplicit false

namespace ConfigRollout

/-- How a run of the program ends. -/
inductive RunOutcome where
  | exited (code : Nat) (stdout stderr : String)
  /-- It found its configuration and keeps running. -/
  | running
  deriving DecidableEq, Repr, Inhabited

/-- What the program starts with. -/
structure Environment where
  /-- The settings variables that are set. -/
  vars : List (String × String)
  /-- The kubeconfig path, none when there is none to look at. -/
  kubeconfigPath : Option String
  /-- The text of the kubeconfig file, none when it is not there. -/
  kubeconfig : Option String
  deriving Repr, Inhabited

/-- The prefix of a numbered cause: its number right-aligned in five columns. -/
def causeNumber (i : Nat) : String :=
  let n := toString i
  String.ofList (List.replicate (5 - n.length) ' ') ++ n ++ ": "

/-- A cause under its prefix: each further line of it is indented by `width` spaces, so that it
lines up with the first. -/
def indentLines (width : Nat) (text : String) : String :=
  String.intercalate ("\n" ++ String.ofList (List.replicate width ' ')) (text.splitOn "\n")

/-- An error report: the error, then its causes, numbered when there are several. -/
def errorReport (top : String) (causes : List String) : String :=
  let head := "Error: " ++ top
  match causes with
  | [] => head ++ "\n"
  | [c] => head ++ "\n\nCaused by:\n    " ++ indentLines 4 c ++ "\n"
  | cs => head ++ "\n\nCaused by:" ++
      String.join (cs.zipIdx.map fun (c, i) => "\n" ++ causeNumber i ++ indentLines 7 c) ++ "\n"

/-- Why the in-cluster configuration fails outside a cluster. -/
def inClusterFailure : String :=
  "failed to read an incluster environment variable: environment variable not found"

/-- The report of a client that cannot be configured. -/
def inferFailure (e : Connect.KubeconfigError) : String :=
  "failed to infer config: in-cluster: (" ++ inClusterFailure ++ "), kubeconfig: (" ++ e.message ++ ")"

/-- The machine the program runs on. -/
def Environment.host (env : Environment) : Connect.Host :=
  { kubeconfigPath := ((env.kubeconfigPath.map Connect.pathComponents).getD []).filter (· != ""),
    kubeconfig := env.kubeconfig }

/-- How a client fails to come about. -/
inductive ClientFailure where
  /-- No configuration was found. -/
  | infer (e : Connect.KubeconfigError)
  /-- The configuration does not make a client. -/
  | build (e : Connect.BuildError)
  deriving Repr, Inhabited

/-- The error report of a client failure. -/
def ClientFailure.report : ClientFailure → String
  | .infer e =>
    errorReport ("Failed to infer configuration: " ++ inferFailure e)
      (inferFailure e :: e.message :: e.causes)
  | .build e => errorReport e.message e.causes

/-- Configures and builds a client from the environment. -/
def buildClient (env : Environment) : Except ClientFailure Unit := do
  let path ← match env.kubeconfigPath with
    | some p => pure p
    | none => throw (.infer .findPath)
  let config ← (Connect.loadKubeconfig env.host path).mapError ClientFailure.infer
  (Connect.buildClient env.host config).mapError ClientFailure.build

/-- Starts the program. -/
def startProgram (env : Environment) : RunOutcome :=
  match Settings.ofEnv (fun k => env.vars.lookup k) with
  | .error e => .exited 1 "" (errorReport e.context [e.reason.message])
  | .ok _ =>
    match buildClient env with
    | .error e => .exited 1 "" e.report
    | .ok () => .running

end ConfigRollout
