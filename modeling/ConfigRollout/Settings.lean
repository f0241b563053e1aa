import ConfigRollout.Text.WhiteSpace
import ConfigRollout.Text.Unsigned

/-!
# Settings

The operator is set up from three environment variables: `WATCH_NAMESPACE` restricts it to one
namespace (a blank value, White_Space only, means all namespaces, and any other value is kept as
given, untrimmed); `RESYNC_INTERVAL_SECS` and `ERROR_REQUEUE_SECS` give the delays before a
workload is reconciled again after a success and after a failure, 300 and 60 seconds when
unset. The resync interval is read first, so its fault is the one reported when both are wrong.
-/

set_option autoImplicit false

namespace ConfigRollout

/-- The operator's settings. -/
structure Settings where
  /-- The only namespace watched, or none for all. -/
  watchNamespace : Option String := none
  /-- Seconds before a workload is reconciled again after a success. -/
  resyncSecs : Nat := 300
  /-- Seconds before a workload is reconciled again after a failure. -/
  errorRequeueSecs : Nat := 60
  deriving DecidableEq, Repr, Inhabited

/-- A setting that does not read: the variable and the fault. -/
structure SettingsError where
  /-- The name of the variable. -/
  varName : String
  /-- Why its value does not read. -/
  reason : Text.NumberError
  deriving DecidableEq, Repr, Inhabited

/-- The first line of the report of a setting that does not read. -/
def SettingsError.context (e : SettingsError) : String :=
  e.varName ++ " must be a number of seconds"

/-- The report of a setting that does not read, on one line. -/
def SettingsError.message (e : SettingsError) : String :=
  e.context ++ ": " ++ e.reason.message

namespace Settings

/-- The names of the variables the settings are read from. -/
def varNames : List String := ["WATCH_NAMESPACE", "RESYNC_INTERVAL_SECS", "ERROR_REQUEUE_SECS"]

/-- A number of seconds from a varName, or a default when it is unset. -/
def seconds (lookup : String → Option String) (var : String) (default : Nat) :
    Except SettingsError Nat :=
  match lookup var with
  | none => .ok default
  | some v => match Text.parseU64 v with
    | .ok n => .ok n
    | .error e => .error { varName := var, reason := e }

/-- The settings from a lookup of environment variables. -/
def ofEnv (lookup : String → Option String) : Except SettingsError Settings := do
  let ns := (lookup "WATCH_NAMESPACE").filter (fun v => !Text.isBlank v)
  let resync ← seconds lookup "RESYNC_INTERVAL_SECS" 300
  let errorRequeue ← seconds lookup "ERROR_REQUEUE_SECS" 60
  pure { watchNamespace := ns, resyncSecs := resync, errorRequeueSecs := errorRequeue }

end Settings

end ConfigRollout
