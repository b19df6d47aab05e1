import ExecMemory.Code.Instr
import ExecMemory.Region

/-!
# The demonstration

A program that uses the library for what it is made for: it puts two small functions into executable
regions, calls them and prints what they return. It stops at the first failure, reports it and exits
with code 1.
-/

namespace ExecMemory.Demo

/-- A function that returns a constant. -/
def retNumber : List Instr := [.load 0x0131c9c0, .ret]

/-- A function that adds its arguments. -/
def add : List Instr := [.add, .ret]

/-- A program that prints lines. -/
abbrev DemoM := Effect (Context × List String) Stop

/-- Runs an operation. -/
def DemoM.op {α : Type} (op : Op α) : DemoM α := Effect.ofOp id op

/-- Prints a line. -/
def DemoM.print (line : String) : DemoM Unit :=
  modify fun (context, lines) => (context, lines ++ [line])

/-- Makes a function into an executable region; a failure is logged under the function's name. -/
def compile (name : String) (code : List Instr) : Op Region := do
  match ← attempt (Region.ofCode (encodeAll code)) with
  | .ok region => return region
  | .error error =>
    emit (.notCompiled name error)
    fail error

/-- The address of a region's code. A region that is not executable is discarded. -/
def entry (region : Region) : Op UInt64 := do
  match region.entry? with
  | some address => return address
  | none =>
    region.discard
    fail .invalidState

/-- Both functions in turn: compile, call, print, free. -/
def program : DemoM Unit := do
  let region ← .op (compile "ret_number" retNumber)
  let address ← .op (entry region)
  let result ← .op (callCode address 0 0)
  .print ("ret_number() = " ++ toString result)
  .op region.free
  let region ← .op (compile "add" add)
  let address ← .op (entry region)
  let result ← .op (callCode address 1 2)
  .print ("add(1, 2) = " ++ toString result)
  let result ← .op (callCode address 314159265 (-256))
  .print ("add(314159265, -256) = " ++ toString result)
  .op region.free

/-- What can be seen of a run of the program. -/
structure Report where
  exitCode : Nat
  stdout : List String
  stderr : List String

/-- The exit code and the last lines on standard error for the way the program ended. -/
def ending : Except Stop Unit → Nat × List String
  | .ok () => (0, [])
  | .error (.error error) => (1, ["Error: " ++ error.debugText])
  | .error (.panic panic) => (101, [panic.message])
  | .error .fault => (139, [])

/-- Runs the program on a host. Log records up to `maxLevel` go to standard error. -/
def run (maxLevel : Option Level) (host : Host) : Report :=
  let (result, context, lines) :=
    program.exec { maxLevel } (.start host .success, [])
  let (exitCode, last) := ending result
  ⟨exitCode, lines, context.records.map Record.line ++ last⟩

end ExecMemory.Demo
