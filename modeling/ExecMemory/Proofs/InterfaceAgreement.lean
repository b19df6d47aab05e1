import ExecMemory.Proofs.LastError
import ExecMemory.Proofs.Turns

/-!
# The two interfaces agree

The C interface throws error values away: it reports a failure as null or `-1` and leaves the reason
to the last error. Nothing else is different. In any script, calls of one interface can be replaced
by those of the other, and every step still makes the same host calls, writes the same records and
leaves the same last error, memory and slots.

* `Op.Tells` says that an operation fails only with errors that the last error tells
  (`Error.ToldBy`). The operations on mappings do, where the page size is a power of two.
* `Step.inC` is the step's counterpart in the C interface, and `Reported` relates the two answers.
* `Machine.step_inC` compares one step with its counterpart, and `Machine.run_chosen` whole scripts.
-/

namespace ExecMemory

/-! ## Failures that the last error tells -/

/-- The number is the one that the error carries; for a size without a rounding, that of missing
memory. -/
def Error.ToldBy (errno : Errno) (error : Error) : Prop :=
  error.errno? = some errno ∨ error = .tooLarge ∧ errno = .outOfMemory

/-- The operation returns a good value, or fails with an error that the last error tells. It does
not panic and does not fault. -/
def Op.TellsFrom {α : Type} (good : α → Prop) (op : Op α) (logging : Logging) (context : Context) :
    Prop :=
  (∃ value later, op.exec logging context = (.ok value, later) ∧ good value) ∨
  ∃ error later, op.exec logging context = (.error (.error error), later) ∧
    error.ToldBy later.lastError

/-- The same wherever the page size is a power of two. -/
def Op.Tells {α : Type} (good : α → Prop) (op : Op α) : Prop :=
  ∀ logging context, context.host.pageSize.toNat.isPowerOfTwo → op.TellsFrom good logging context

section Tells

variable {α : Type} {op : Op α} {good : α → Prop} {logging : Logging} {context : Context}
  {host : Host} {calls : List SysCall}

theorem tells_value {value : α} (ends : Op.Ends op logging context (.ok value) host calls)
    (isGood : good value) : op.TellsFrom good logging context := by
  obtain ⟨lastError, records, ran⟩ := ends
  exact .inl ⟨value, _, ran, isGood⟩

/-- An error that carries a number has left it, and so has a size without a rounding. -/
theorem tells_error {error : Error} (agrees : op.Agrees)
    (ends : Op.Ends op logging context (.error (.error error)) host calls)
    (known : error.errno? ≠ none ∨ error = .tooLarge) : op.TellsFrom good logging context := by
  obtain ⟨lastError, records, ran⟩ := ends
  have left := agrees logging context
  rw [ran] at left
  refine .inr ⟨error, _, ran, ?_⟩
  unfold Agreement at left
  rw [left]
  unfold Error.ToldBy Error.lastError
  rcases known with carries | rfl
  · obtain ⟨errno, found⟩ := Option.ne_none_iff_exists'.mp carries
    rw [found]
    exact .inl rfl
  · exact .inr ⟨rfl, rfl⟩

end Tells

namespace Mapping

open Op

/-- An allocation that succeeds has an address. -/
theorem tells_alloc (size : UInt64) : (alloc size).Tells fun address => address ≠ 0 := by
  intro logging context power
  rcases mappingLength_cases size power with overflows | ⟨length, rounds⟩
  · exact tells_error (agrees_alloc size) (ends_length_tooLarge rfl overflows).bind_error (.inr rfl)
  · rcases called : context.host.call (.map length .readWrite) with ⟨errno | address, host⟩
    · exact tells_error (agrees_alloc size) (ends_alloc_refused rfl rounds called) (.inl nofun)
    · by_cases null : address = 0
      · subst null
        obtain ⟨errno, ends⟩ := ends_alloc_null logging rfl rounds called
        exact tells_error (agrees_alloc size) ends (.inl nofun)
      · exact tells_value (ends_alloc rfl rounds called null) null

theorem tells_makeExecutable (address size : UInt64) :
    (makeExecutable address size).Tells fun _ => True := by
  intro logging context power
  rcases mappingLength_cases size power with overflows | ⟨length, rounds⟩
  · exact tells_error (agrees_makeExecutable address size)
      (ends_length_tooLarge rfl overflows).bind_error (.inr rfl)
  · rcases called : context.host.call (.protect address length .readExec) with ⟨errno | value, host⟩
    · exact tells_error (agrees_makeExecutable address size)
        (ends_makeExecutable_refused rfl rounds called) (.inl (by simp))
    · exact tells_value (ends_makeExecutable rfl rounds called) trivial

theorem tells_release (address size : UInt64) : (release address size).Tells fun _ => True := by
  intro logging context power
  rcases mappingLength_cases size power with overflows | ⟨length, rounds⟩
  · exact tells_error (agrees_release address size)
      (ends_length_tooLarge rfl overflows).bind_error (.inr rfl)
  · rcases called : context.host.call (.unmap address length) with ⟨errno | value, host⟩
    · exact tells_error (agrees_release address size) (ends_release_refused rfl rounds called)
        (.inl nofun)
    · exact tells_value (ends_release rfl rounds called) trivial

end Mapping

/-! ## Steps and their counterparts -/

/-- The same step through the C interface, where it has one. -/
def Step.inC : Step → Step
  | .library .pageSize inThread => .library (.c .pageSize) inThread
  | .library .lastError inThread => .library (.c .errno) inThread
  | .library (.mapping (.alloc slot size)) inThread => .library (.c (.alloc slot size)) inThread
  | .library (.mapping (.makeExecutable place size)) inThread =>
    .library (.c (.makeExecutable place size)) inThread
  | .library (.mapping (.release place size)) inThread => .library (.c (.free place size)) inThread
  | step => step

/-- The step itself, or its counterpart. -/
def Step.chosen (choice : Step × Bool) : Step := if choice.2 then choice.1.inC else choice.1

/-- The C interface reports the step by a status. -/
def Step.hasStatus : Step → Bool
  | .library (.mapping (.makeExecutable ..)) _ | .library (.mapping (.release ..)) _ => true
  | _ => false

/-- The step has a counterpart that reports no error values. -/
def Step.fallible : Step → Bool
  | .library (.mapping (.alloc ..)) _ => true
  | step => step.hasStatus

/-- How the C interface reports what the step answers. -/
inductive Reported : Step → Except Halt Value → Except Halt Value → Prop
  | address {slot : SlotId} {size address : UInt64} {inThread : Bool} (notNull : address ≠ 0) :
      Reported (.library (.mapping (.alloc slot size)) inThread) (.ok (.address address))
        (.ok (.address address))
  | null {slot : SlotId} {size : UInt64} {inThread : Bool} {error : Error} :
      Reported (.library (.mapping (.alloc slot size)) inThread) (.error (.stop (.error error)))
        (.ok (.address 0))
  | done {step : Step} (status : step.hasStatus = true) :
      Reported step (.ok .unit) (.ok (.number 0))
  | failed {step : Step} {error : Error} (status : step.hasStatus = true) :
      Reported step (.error (.stop (.error error))) (.ok (.number (-1)))
  -- the step did not start
  | halted {step : Step} {halt : Halt} (early : halt = .noSuchSlot ∨ halt = .slotInUse) :
      Reported step (.error halt) (.error halt)
  | same {step : Step} {result : Except Halt Value} (infallible : step.fallible = false) :
      Reported step result result

/-- Run in one state, a step and its counterpart leave the same state, and the second reports what
the first answers. An error is told by the last error they leave. -/
def StepM.AgreesInC (step : Step) (logging : Logging) (context : Context) (slots : Slots) : Prop :=
  ∃ result reported later slots',
    step.run.exec logging (context, slots) = (result, later, slots') ∧
    step.inC.run.exec logging (context, slots) = (reported, later, slots') ∧
    Reported step result reported ∧
    (step.fallible = true → ∀ error, result = .error (.stop (.error error)) →
      error.ToldBy later.lastError)

section Steps

variable {logging : Logging} {context : Context} {slots : Slots} {inThread : Bool}

/-- A step that runs the same in both interfaces. -/
theorem agreesInC_same {step : Step} (infallible : step.fallible = false)
    (runs : step.inC.run.exec logging (context, slots) = step.run.exec logging (context, slots)) :
    StepM.AgreesInC step logging context slots := by
  rcases ran : step.run.exec logging (context, slots) with ⟨result, later, slots'⟩
  refine ⟨result, result, later, slots', ran, runs.trans ran, .same infallible, ?_⟩
  intro fallible
  rw [infallible] at fallible
  cases fallible

theorem agreesInC_alloc (slot : SlotId) (size : UInt64)
    (power : context.host.pageSize.toNat.isPowerOfTwo) :
    StepM.AgreesInC (.library (.mapping (.alloc slot size)) inThread) logging context slots := by
  unfold StepM.AgreesInC Step.inC Step.run Call.run MappingCall.run CCall.run
  cases found : slots.get? slot with
  | some held =>
      refine ⟨.error .slotInUse, .error .slotInUse, context, slots, ?_, ?_, .halted (.inr rfl),
        nofun⟩
      · simp [exec_requireEmpty_held found]
      · simp [exec_requireEmpty_held found]
  | none =>
      rcases Mapping.tells_alloc size logging context power with
        ⟨address, later, ran, notNull⟩ | ⟨error, later, ran, told⟩
      · refine ⟨.ok (.address address), .ok (.address address), later,
          slots.insert slot (.raw address), ?_, ?_, .address notNull, nofun⟩
        · simp [exec_requireEmpty found, StepM.op, exec_ofOp, ran, exec_put]
        · simp [exec_requireEmpty found, StepM.op, exec_ofOp, CInterface.alloc, exec_attempt, ran,
            notNull, exec_put]
      · refine ⟨.error (.stop (.error error)), .ok (.address 0), later, slots, ?_, ?_, .null, ?_⟩
        · simp [exec_requireEmpty found, StepM.op, exec_ofOp, ran]
        · simp [exec_requireEmpty found, StepM.op, exec_ofOp, CInterface.alloc, exec_attempt, ran]
        · intro _ other same
          cases same
          exact told

/-- The two steps that report a status resolve a place and run one operation there. -/
theorem agreesInC_status {step : Step} {place : Place} {op : UInt64 → Op Unit}
    (tells : ∀ address, (op address).Tells fun _ => True) (status : step.hasStatus = true)
    (runs : step.run = do
      let address ← place.resolve
      StepM.op (op address)
      return .unit)
    (runsInC : step.inC.run = do
      let address ← place.resolve
      return .number (← StepM.op (CInterface.status (op address))))
    (power : context.host.pageSize.toNat.isPowerOfTwo) :
    StepM.AgreesInC step logging context slots := by
  unfold StepM.AgreesInC
  rw [runs, runsInC]
  cases found : place.address? slots with
  | none =>
      refine ⟨.error .noSuchSlot, .error .noSuchSlot, context, slots, ?_, ?_, .halted (.inl rfl),
        nofun⟩
      · simp [exec_resolve_missing found]
      · simp [exec_resolve_missing found]
  | some address =>
      rcases tells address logging context power with
        ⟨_, later, ran, _⟩ | ⟨error, later, ran, told⟩
      · refine ⟨.ok .unit, .ok (.number 0), later, slots, ?_, ?_, .done status, nofun⟩
        · simp [exec_resolve found, StepM.op, exec_ofOp, ran]
        · simp [exec_resolve found, StepM.op, exec_ofOp, CInterface.status, exec_attempt, ran]
      · refine ⟨.error (.stop (.error error)), .ok (.number (-1)), later, slots, ?_, ?_,
          .failed status, ?_⟩
        · simp [exec_resolve found, StepM.op, exec_ofOp, ran]
        · simp [exec_resolve found, StepM.op, exec_ofOp, CInterface.status, exec_attempt, ran]
        · intro _ other same
          cases same
          exact told

theorem agreesInC (step : Step) (power : context.host.pageSize.toNat.isPowerOfTwo) :
    StepM.AgreesInC step logging context slots := by
  cases step with
  | host action => exact agreesInC_same rfl rfl
  | library call inThread =>
      cases call with
      | mapping call =>
          cases call with
          | alloc slot size => exact agreesInC_alloc slot size power
          | makeExecutable place size =>
              exact agreesInC_status (fun address => Mapping.tells_makeExecutable address size) rfl
                rfl rfl power
          | release place size =>
              exact agreesInC_status (fun address => Mapping.tells_release address size) rfl rfl rfl
                power
          | _ => exact agreesInC_same rfl rfl
      | _ => exact agreesInC_same rfl rfl

end Steps

/-! ## Scripts -/

/-- The answers agree in everything but the result. -/
structure Answer.SameEffects (answer other : Answer) : Prop where
  calls : other.calls = answer.calls
  records : other.records = answer.records
  lastError : other.lastError = answer.lastError
  layout : other.layout = answer.layout

theorem Step.inOwnThread_inC (step : Step) : step.inC.inOwnThread = step.inOwnThread := by
  unfold Step.inC
  split <;> rfl

namespace Machine

variable {logging : Logging} {machine : Machine}

/-- A step is determined by its run and its thread. -/
theorem step_congr {step other : Step} (thread : other.inOwnThread = step.inOwnThread)
    (runs : other.run.exec logging
        (.start machine.host (if step.inOwnThread then .success else machine.lastError),
          machine.slots) =
      step.run.exec logging
        (.start machine.host (if step.inOwnThread then .success else machine.lastError),
          machine.slots)) :
    machine.step logging other = machine.step logging step := by
  unfold Machine.step
  simp only [thread, runs]

/-- In the script's own thread, the last error after a step is the one that the step answers
with. -/
theorem lastError_step {step : Step} (own : step.inOwnThread = false) :
    (machine.step logging step).2.lastError = (machine.step logging step).1.lastError := by
  unfold Machine.step
  simp only [own]
  split <;> rfl

/-- **One step** through the C interface differs from the same step only in how it reports the
result. -/
theorem step_inC (logging : Logging) (machine : Machine) (step : Step)
    (power : machine.host.pageSize.toNat.isPowerOfTwo) :
    let answered := machine.step logging step
    let reported := machine.step logging step.inC
    reported.2 = answered.2 ∧ answered.1.SameEffects reported.1 ∧
      Reported step answered.1.result reported.1.result ∧
      (step.fallible = true → ∀ error, answered.1.result = .error (.stop (.error error)) →
        error.ToldBy reported.1.lastError) := by
  intro answered reported
  obtain ⟨result, resultInC, later, slots, ran, ranInC, report, told⟩ :=
    @agreesInC logging
      (.start machine.host (if step.inOwnThread then .success else machine.lastError)) machine.slots
      step power
  cases undone : undoes result with
  | true =>
      -- the step did not start, or it is the same step: nothing is reported in another way
      have same : resultInC = result := by cases report <;> first | rfl | cases undone
      rw [same, ← ran] at ranInC
      have equal : reported = answered := step_congr step.inOwnThread_inC ranInC
      obtain ⟨lastError, stepped⟩ := step_of_exec_undone step ran undone
      have answer : answered.1.result = result := congrArg (·.1.result) stepped
      rw [equal, answer]
      refine ⟨rfl, ⟨rfl, rfl, rfl, rfl⟩, same ▸ report, ?_⟩
      rintro _ error rfl
      cases undone
  | false =>
      have kept : undoes resultInC = false := by cases report <;> first | rfl | exact undone
      have stepped : answered = _ := step_of_exec step ran undone
      rw [← step.inOwnThread_inC] at ranInC
      have steppedInC : reported = _ := step_of_exec step.inC ranInC kept
      rw [step.inOwnThread_inC] at steppedInC
      rw [stepped, steppedInC]
      exact ⟨rfl, ⟨rfl, rfl, rfl, rfl⟩, report, told⟩

/-- **Every script**: replacing steps by their counterparts leads to the same machine. -/
theorem run_chosen (logging : Logging) {script : List (Step × Bool)}
    (power : ∀ n,
      (machine.run logging ((script.take n).map Prod.fst)).2.host.pageSize.toNat.isPowerOfTwo) :
    (machine.run logging (script.map Step.chosen)).2 =
      (machine.run logging (script.map Prod.fst)).2 := by
  induction script generalizing machine with
  | nil => rfl
  | cons choice later ih =>
      obtain ⟨step, inC⟩ := choice
      have next : (machine.step logging (Step.chosen (step, inC))).2 =
          (machine.step logging step).2 := by
        cases inC with
        | false => rfl
        | true => exact (step_inC logging machine step (power 0)).1
      show ((machine.step logging (Step.chosen (step, inC))).2.run logging _).2 = _
      rw [next]
      exact ih fun n => power (n + 1)

/-- One more step gives one more answer. -/
theorem run_take_succ (logging : Logging) {α : Type} {script : List α} {n : Nat} {entry : α}
    (found : script[n]? = some entry) (step : α → Step) :
    machine.run logging ((script.take (n + 1)).map step) =
      let earlier := machine.run logging ((script.take n).map step)
      let last := earlier.2.step logging (step entry)
      (earlier.1 ++ [last.1], last.2) := by
  rw [List.take_add_one, found, List.map_append, run_append]
  rfl

end Machine

/-- **The two interfaces agree.** In any script in which the host reports powers of two as its page
size, replace any of the calls that have a counterpart in the C interface by it. Then, whatever is
logged and whatever the logger does to the last error, after each step the machine is the same in
both runs: host, memory, slots and last error. The step has made the same host calls and written the
same records. A replaced step reports an address by itself, which is not null, and the failure to
get one by null; it reports success by 0 and failure by `-1`. After a failure the last error, and so
the answer to a question for it, is the number that the error value carries, or that of missing
memory if the size has no rounding. -/
theorem interfaces_agree (logging : Logging) (script : List (Step × Bool))
    (power : ∀ n, (Machine.initial.run logging
      ((script.take n).map Prod.fst)).2.host.pageSize.toNat.isPowerOfTwo) :
    let direct n := Machine.initial.run logging ((script.take n).map Prod.fst)
    let replaced n := Machine.initial.run logging ((script.take n).map Step.chosen)
    (∀ n, (replaced n).2 = (direct n).2) ∧
    ∀ n step inC, script[n]? = some (step, inC) → ∃ answer other : Answer,
      (direct (n + 1)).1 = (direct n).1 ++ [answer] ∧
      (replaced (n + 1)).1 = (replaced n).1 ++ [other] ∧
      answer.SameEffects other ∧
      (if inC then Reported step answer.result other.result else other.result = answer.result) ∧
      (inC = true → step.fallible = true → ∀ error, answer.result = .error (.stop (.error error)) →
        error.ToldBy other.lastError ∧
        (step.inOwnThread = false →
          ((replaced (n + 1)).2.step logging (.library (.c .errno) false)).1.result =
            .ok (.number other.lastError.code))) := by
  intro direct replaced
  have same : ∀ n, (replaced n).2 = (direct n).2 := by
    intro n
    refine Machine.run_chosen logging fun m => ?_
    rw [List.take_take]
    exact power (min m n)
  refine ⟨same, fun n step inC found => ?_⟩
  have directNext :=
    @Machine.run_take_succ Machine.initial logging _ script n (step, inC) found Prod.fst
  have replacedNext :=
    @Machine.run_take_succ Machine.initial logging _ script n (step, inC) found Step.chosen
  refine ⟨((direct n).2.step logging step).1,
    ((replaced n).2.step logging (Step.chosen (step, inC))).1,
    congrArg Prod.fst directNext, congrArg Prod.fst replacedNext, ?_⟩
  rw [same n]
  cases inC with
  | false => exact ⟨⟨rfl, rfl, rfl, rfl⟩, rfl, nofun⟩
  | true =>
      have counterpart : Step.chosen (step, true) = step.inC := rfl
      rw [counterpart]
      obtain ⟨_, effects, report, told⟩ := Machine.step_inC logging (direct n).2 step (power n)
      refine ⟨effects, report,
        fun _ fallible error failed => ⟨told fallible error failed, fun own => ?_⟩⟩
      have after : (replaced (n + 1)).2 = ((direct n).2.step logging step.inC).2 := by
        rw [← same n]
        exact congrArg Prod.snd replacedNext
      have left :=
        @Machine.lastError_step logging (direct n).2 step.inC (step.inOwnThread_inC.trans own)
      rw [after, ← left]
      rfl

/-- A script with a failure of each kind, its calls made through the C interface. -/
def failuresInC : List (Step × Bool) := [
  (.library (.mapping (.alloc 0 100)) false, true),
  (.host (.plan ⟨0, .refuse .protect .notPermitted⟩), false),
  (.library (.mapping (.makeExecutable (.slot 0 0) 100)) false, true),
  (.library (.mapping (.release (.slot 0 1) 100)) true, true),
  (.library (.mapping (.alloc 1 0xffffffffffffffff)) false, true)]

theorem interfaces_agree_failures :
    let logging : Logging := ⟨some .trace, some ⟨7⟩⟩
    let direct n := Machine.initial.run logging ((failuresInC.take n).map Prod.fst)
    let replaced n := Machine.initial.run logging ((failuresInC.take n).map Step.chosen)
    (direct 5).1.map Answer.result = [.ok (.address 0x10000000000), .ok .unit,
      .error (.stop (.error (.unsupportedTransition .notPermitted))),
      .error (.stop (.error (.invalidRegion .invalidArgument))),
      .error (.stop (.error .tooLarge))] ∧
    (replaced 5).1.map Answer.result = [.ok (.address 0x10000000000), .ok .unit, .ok (.number (-1)),
      .ok (.number (-1)), .ok (.address 0)] ∧
    (replaced 5).2 = (direct 5).2 ∧
    ((replaced 5).2.step logging (.library (.c .errno) false)).1.result =
      .ok (.number Errno.outOfMemory.code) := by
  have power : ∀ n, (Machine.initial.run ⟨some .trace, some ⟨7⟩⟩
      ((failuresInC.take n).map Prod.fst)).2.host.pageSize.toNat.isPowerOfTwo := by
    intro n
    by_cases short : n < 5
    · revert n
      decide +kernel
    · rw [List.take_of_length_le (Nat.le_of_not_lt short)]
      decide +kernel
  obtain ⟨same, steps⟩ := interfaces_agree ⟨some .trace, some ⟨7⟩⟩ failuresInC power
  obtain ⟨answer, other, directNext, _, _, _, told⟩ :=
    steps 4 (.library (.mapping (.alloc 1 0xffffffffffffffff)) false) true rfl
  have failed : answer.result = .error (.stop (.error .tooLarge)) := by
    have last : ((Machine.initial.run ⟨some .trace, some ⟨7⟩⟩
        ((failuresInC.take 5).map Prod.fst)).1.map Answer.result).getLast? =
          some (.error (.stop (.error .tooLarge))) := by rfl
    rw [directNext] at last
    simpa using last
  obtain ⟨number, asked⟩ := told rfl rfl .tooLarge failed
  rcases number with carried | ⟨_, number⟩
  · cases carried
  · rw [number] at asked
    exact ⟨by rfl, by rfl, same 5, asked rfl⟩

end ExecMemory
