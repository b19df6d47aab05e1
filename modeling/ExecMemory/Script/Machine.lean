import ExecMemory.Script.Run

/-!
# Running scripts

A `Machine` is what lasts from step to step: the host, the last error of the script's thread, and
the slots. `Machine.step` runs one step and gives its answer; `Machine.run` runs a list of them.

* A step that names an empty slot, or would fill a slot that is in use, does nothing.
* A step that faults is undone as a whole: nothing of what it did remains, not even its trace.
* Any other step, stopped or not, keeps what it did. A region that is freed or discarded leaves its
  slot whatever the outcome.
* A call in a thread of its own starts with no last error and leaves the script's as it was.
-/

namespace ExecMemory

/-- What can be seen of a step. -/
structure Answer where
  result : Except Halt Value
  /-- The last error, right after the step, of the thread it ran in. -/
  lastError : Errno
  calls : List SysCall
  records : List Record
  /-- All mapped memory after the step. -/
  layout : List Extent

/-- What lasts from step to step. -/
structure Machine where
  host : Host
  /-- The last error of the script's own thread. -/
  lastError : Errno
  slots : Slots

namespace Machine

/-- The machine before the first step. -/
def initial : Machine := ⟨.initial, .success, .empty⟩

/-- The answer of a step that did nothing. -/
def untouched (machine : Machine) (halt : Halt) (lastError : Errno) : Answer :=
  ⟨.error halt, lastError, [], [], machine.host.layout⟩

/-- Runs one step. -/
def step (logging : Logging) (machine : Machine) (step : Step) : Answer × Machine :=
  let startError := if step.inOwnThread then .success else machine.lastError
  let (result, context, slots) :=
    step.run.exec logging (.start machine.host startError, machine.slots)
  match result with
  | .error .noSuchSlot => (machine.untouched .noSuchSlot machine.lastError, machine)
  | .error .slotInUse => (machine.untouched .slotInUse machine.lastError, machine)
  | .error (.stop .fault) => (machine.untouched (.stop .fault) startError, machine)
  | result =>
    (⟨result, context.lastError, context.calls, context.records, context.host.layout⟩,
      ⟨context.host, if step.inOwnThread then machine.lastError else context.lastError, slots⟩)

/-- Runs steps one after the other: their answers, and the machine they leave. -/
def run (logging : Logging) (machine : Machine) : List Step → List Answer × Machine
  | [] => ([], machine)
  | step :: later =>
    let (answer, next) := machine.step logging step
    let (answers, last) := next.run logging later
    (answer :: answers, last)

@[simp]
theorem run_nil (logging : Logging) (machine : Machine) :
    machine.run logging [] = ([], machine) := rfl

@[simp]
theorem run_cons (logging : Logging) (machine : Machine) (step : Step) (later : List Step) :
    machine.run logging (step :: later) =
      let (answer, next) := machine.step logging step
      let (answers, last) := next.run logging later
      (answer :: answers, last) := rfl

/-- A script can be cut anywhere. -/
theorem run_append (logging : Logging) (machine : Machine) (first later : List Step) :
    machine.run logging (first ++ later) =
      let (answers, between) := machine.run logging first
      let (more, last) := between.run logging later
      (answers ++ more, last) := by
  induction first generalizing machine with
  | nil => rfl
  | cons step rest ih => simp [ih]

end Machine

/-- The answers of a script that starts on a fresh machine. -/
def runScript (logging : Logging) (steps : List Step) : List Answer :=
  (Machine.initial.run logging steps).1

end ExecMemory
