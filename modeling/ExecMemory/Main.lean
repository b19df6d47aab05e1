import ExecMemory.Demo

/-!
# Command line

Runs the demonstration on a fresh host. The environment variable `RUST_LOG` names the least severe
log level to show; without it only errors are shown.
-/

namespace ExecMemory

/-- The log level in force for the value of the environment variable. -/
def Level.ofEnvironment (setting : Option String) : Option Level :=
  (setting.bind Level.ofSetting?).getD (some .error)

end ExecMemory

def main : IO UInt32 := do
  let setting ← IO.getEnv "RUST_LOG"
  let report := ExecMemory.Demo.run (ExecMemory.Level.ofEnvironment setting) .initial
  for line in report.stdout do
    IO.println line
  for line in report.stderr do
    IO.eprintln line
  return .ofNat report.exitCode
