import ConfigRollout.Cli

/-!
# The program

Reads the settings variables and the kubeconfig file (from `KUBECONFIG`, else
`$HOME/.kube/config`) and starts: a failure is reported on standard error with its exit code;
a configuration that loads keeps the program running.
-/

open ConfigRollout

/-- The text of a file, none when it cannot be read. -/
def readText (path : String) : IO (Option String) := do
  try
    pure (some (← IO.FS.readFile path))
  catch _ =>
    pure none

/-- Keeps the program running. -/
partial def idle : IO Unit := do
  IO.sleep 60000
  idle

def main : IO UInt32 := do
  let vars ← Settings.varNames.filterMapM fun v => do
    pure ((← IO.getEnv v).map fun value => (v, value))
  let home ← IO.getEnv "HOME"
  let fallback := home.map (· ++ "/.kube/config")
  let path := match ← IO.getEnv "KUBECONFIG" with
    | some p => if p.isEmpty then fallback else some p
    | none => fallback
  let text ← match path with
    | some p => readText p
    | none => pure none
  match startProgram { vars := vars, kubeconfigPath := path, kubeconfig := text } with
  | .exited code out err =>
    IO.print out
    IO.eprint err
    pure code.toUInt32
  | .running =>
    idle
    pure 0
