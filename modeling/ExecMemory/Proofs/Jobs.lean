import ExecMemory.Proofs.Ownership

/-!
# Library calls as jobs

A library call looks up what it needs in the slots, runs one operation, and puts the slots in order.
A `Job` is what is left of it once the slots are known: the operation, the answer it is reported by,
and the slots after it returned or stopped.

* `Call.job` gives the job of every call, or the reason why the call does not start.
* `Call.exec_run` shows that running the call is running its job.
* `Machine.step_job` reads off the answer of a step from the run of that one operation.

So what a call does to the host, to the last error and to the log is what one operation does.
-/

namespace ExecMemory

/-- An operation of the library, the answer to its value, and what becomes of the slots. -/
structure Job where
  {α : Type}
  op : Op α
  answer : α → Value
  /-- The slots after the operation has returned a value. -/
  filled : α → Slots
  /-- The slots after it has stopped. -/
  left : Slots

namespace Job

/-- The slots after the operation. -/
def slots (job : Job) : Except Stop job.α → Slots
  | .ok value => job.filled value
  | .error _ => job.left

/-- Runs the operation and puts the slots in order. -/
def exec (job : Job) (logging : Logging) (context : Context) :
    Except Halt Value × Context × Slots :=
  let (result, later) := job.op.exec logging context
  (answerOf job.answer result, later, job.slots result)

variable {α : Type}

/-- An operation that leaves the slots alone. -/
def plain (slots : Slots) (op : Op α) (answer : α → Value) : Job :=
  ⟨op, answer, fun _ => slots, slots⟩

/-- An operation that fills an empty slot. -/
def create (slots : Slots) (id : SlotId) (op : Op α) (slot : α → Slot) (answer : α → Value) :
    Except Halt Job :=
  match slots.get? id with
  | some _ => .error .slotInUse
  | none => .ok ⟨op, answer, fun value => slots.insert id (slot value), slots⟩

/-- An operation on the address of a place. -/
def atPlace (slots : Slots) (place : Place) (op : UInt64 → Op α) (answer : α → Value) :
    Except Halt Job :=
  match place.address? slots with
  | some address => .ok (plain slots (op address) answer)
  | none => .error .noSuchSlot

/-- A job for the region that a slot holds. -/
def onRegion (slots : Slots) (id : SlotId) (job : Region → Job) : Except Halt Job :=
  match slots.region? id with
  | some region => .ok (job region)
  | none => .error .noSuchSlot

end Job

open Job

/-! ## The job of each call -/

def MappingCall.job (slots : Slots) : MappingCall → Except Halt Job
  | .length size => .ok (plain slots (Mapping.length size) .size)
  | .alloc slot size => create slots slot (Mapping.alloc size) .raw .address
  | .protect place size flags =>
    atPlace slots place (fun address => Mapping.protect address size flags) fun _ => .unit
  | .makeExecutable place size =>
    atPlace slots place (fun address => Mapping.makeExecutable address size) fun _ => .unit
  | .release place size =>
    atPlace slots place (fun address => Mapping.release address size) fun _ => .unit
  | .flushInstructionCache place size =>
    atPlace slots place (fun address => Mapping.flushInstructionCache address size) fun _ => .unit

/-- A null address is an answer, but it fills no slot. -/
def CCall.job (slots : Slots) : CCall → Except Halt Job
  | .pageSize => .ok (plain slots CInterface.pageSize .size)
  | .errno => .ok (plain slots CInterface.errno .number)
  | .alloc slot size =>
    match slots.get? slot with
    | some _ => .error .slotInUse
    | none => .ok ⟨CInterface.alloc size, .address,
        fun address => if address ≠ 0 then slots.insert slot (.raw address) else slots, slots⟩
  | .makeExecutable place size =>
    atPlace slots place (fun address => CInterface.makeExecutable address size) .number
  | .free place size => atPlace slots place (fun address => CInterface.free address size) .number

def RegionCall.job (slots : Slots) (id : SlotId) : RegionCall → Except Halt Job
  | .allocate size =>
    create slots id (Region.allocate size) .region fun region => .address region.base
  | .ofCode code => create slots id (Region.ofCode code) .region fun region => .address region.base
  | .info => onRegion slots id fun region => plain slots region.mappedLength (.info region)
  | .makeExecutable => onRegion slots id fun region =>
    ⟨region.makeExecutable, fun _ => .unit, fun changed => slots.insert id (.region changed), slots⟩
  | .read start stop => onRegion slots id fun region =>
    plain slots (region.read start (stop.getD region.size)) .bytes
  | .write offset bytes => onRegion slots id fun region =>
    plain slots (region.write offset bytes) fun _ => .unit
  | .fill value => onRegion slots id fun region =>
    plain slots (region.fill value) fun _ => .size region.size
  | .free => onRegion slots id fun region => plain (slots.erase id) region.free fun _ => .unit
  | .discard => onRegion slots id fun region => plain (slots.erase id) region.discard fun _ => .unit
  | .call arguments offset => onRegion slots id fun region =>
    match region.entry? with
    | some entry => plain slots (callWith (entry + .ofInt offset) arguments) .number
    | none => plain slots (fail .invalidState) .number

/-- What a call runs once the slots are known, or why it does not start. -/
def Call.job (slots : Slots) : Call → Except Halt Job
  | .pageSize => .ok (plain slots ExecMemory.pageSize .size)
  | .lastError => .ok (plain slots ExecMemory.lastError fun errno => .number errno.code)
  | .setLastError errno => .ok (plain slots (ExecMemory.setLastError errno) fun _ => .unit)
  | .mapping call => call.job slots
  | .c call => call.job slots
  | .region id call => call.job slots id

/-! ## Running a call is running its job -/

/-- Runs the job, or halts before anything is done. -/
def runJob (slots : Slots) (job : Except Halt Job) (logging : Logging) (context : Context) :
    Except Halt Value × Context × Slots :=
  match job with
  | .error halt => (.error halt, context, slots)
  | .ok job => job.exec logging context

theorem Slots.get?_ne_of_region?_eq_none {slots : Slots} {id : SlotId}
    (absent : slots.region? id = none) (region : Region) :
    slots.get? id ≠ some (.region region) := by
  intro held
  rw [region?_eq_some_iff.mpr held] at absent
  cases absent

section Running

variable {α : Type} {logging : Logging} {context : Context} {slots : Slots} {id : SlotId}

theorem exec_plain (op : Op α) (answer : α → Value) :
    (do return answer (← StepM.op op) : StepM Value).exec logging (context, slots) =
      runJob slots (.ok (plain slots op answer)) logging context := by
  show _ = Job.exec (plain slots op answer) logging context
  rcases ran : op.exec logging context with ⟨stop | value, later⟩
  · simp [Job.exec, Job.slots, answerOf, plain, StepM.op, exec_ofOp, ran]
  · simp [Job.exec, Job.slots, answerOf, plain, StepM.op, exec_ofOp, ran]

theorem exec_create (op : Op α) (slot : α → Slot) (answer : α → Value) :
    (do
      StepM.requireEmpty id
      let value ← StepM.op op
      StepM.put id (slot value)
      return answer value : StepM Value).exec logging (context, slots) =
      runJob slots (create slots id op slot answer) logging context := by
  unfold create
  cases found : slots.get? id with
  | some held => simp [runJob, exec_requireEmpty_held found]
  | none =>
      rcases ran : op.exec logging context with ⟨stop | value, later⟩
      · simp [runJob, Job.exec, Job.slots, answerOf, exec_requireEmpty found, StepM.op, exec_ofOp,
          ran]
      · simp [runJob, Job.exec, Job.slots, answerOf, exec_requireEmpty found, StepM.op, exec_ofOp,
          ran, exec_put]

theorem exec_atPlace {place : Place} (op : UInt64 → Op α) (answer : α → Value) :
    (do
      let address ← place.resolve
      return answer (← StepM.op (op address)) : StepM Value).exec logging (context, slots) =
      runJob slots (atPlace slots place op answer) logging context := by
  unfold atPlace
  cases found : place.address? slots with
  | none => simp [runJob, exec_resolve_missing found]
  | some address =>
      rw [Effect.exec_bind, exec_resolve found]
      exact exec_plain (op address) answer

theorem exec_onRegion {next : Region → StepM Value} {job : Region → Job}
    (same : ∀ region, slots.get? id = some (.region region) →
      (next region).exec logging (context, slots) = (job region).exec logging context) :
    (do next (← StepM.region id) : StepM Value).exec logging (context, slots) =
      runJob slots (onRegion slots id job) logging context := by
  unfold onRegion
  cases found : slots.region? id with
  | none =>
      have absent := Slots.get?_ne_of_region?_eq_none found
      simp [runJob, exec_region_absent absent]
  | some region =>
      have held := Slots.region?_eq_some_iff.mp found
      rw [Effect.exec_bind, exec_region held]
      exact same region held

theorem exec_consume (op : Region → Op Unit) :
    (do
      let region ← StepM.takeRegion id
      StepM.op (op region)
      return Value.unit : StepM Value).exec logging (context, slots) =
      runJob slots (onRegion slots id fun region => plain (slots.erase id) (op region) fun _ =>
        .unit)
        logging context := by
  unfold onRegion
  cases found : slots.region? id with
  | none =>
      have absent := Slots.get?_ne_of_region?_eq_none found
      simp [runJob, exec_takeRegion_absent absent]
  | some region =>
      rw [Effect.exec_bind, exec_takeRegion (Slots.region?_eq_some_iff.mp found)]
      exact exec_plain (op region) fun _ => .unit

end Running

section Calls

variable (logging : Logging) (context : Context) (slots : Slots)

theorem MappingCall.exec_run (call : MappingCall) :
    call.run.exec logging (context, slots) = runJob slots (call.job slots) logging context := by
  cases call with
  | length size => exact exec_plain (Mapping.length size) .size
  | alloc slot size => exact exec_create (Mapping.alloc size) .raw .address
  | protect place size flags => exact exec_atPlace _ _
  | makeExecutable place size => exact exec_atPlace _ _
  | release place size => exact exec_atPlace _ _
  | flushInstructionCache place size => exact exec_atPlace _ _

theorem CCall.exec_run (call : CCall) :
    call.run.exec logging (context, slots) = runJob slots (call.job slots) logging context := by
  cases call with
  | pageSize => exact exec_plain CInterface.pageSize .size
  | errno => exact exec_plain CInterface.errno .number
  | makeExecutable place size => exact exec_atPlace _ _
  | free place size => exact exec_atPlace _ _
  | alloc slot size =>
      unfold CCall.run CCall.job
      dsimp only
      cases found : slots.get? slot with
      | some held => simp [runJob, exec_requireEmpty_held found]
      | none =>
          rcases ran : (CInterface.alloc size).exec logging context with ⟨stop | address, later⟩
          · simp [runJob, Job.exec, Job.slots, answerOf, exec_requireEmpty found, StepM.op,
              exec_ofOp, ran]
          · by_cases null : address = 0
            · simp [runJob, Job.exec, Job.slots, answerOf, exec_requireEmpty found, StepM.op,
                exec_ofOp, ran, null]
            · simp [runJob, Job.exec, Job.slots, answerOf, exec_requireEmpty found, StepM.op,
                exec_ofOp, ran, null, exec_put]

theorem RegionCall.exec_run (id : SlotId) (call : RegionCall) :
    (call.run id).exec logging (context, slots) =
      runJob slots (call.job slots id) logging context := by
  cases call with
  | allocate size =>
      exact exec_create (Region.allocate size) .region fun region => .address region.base
  | ofCode code => exact exec_create (Region.ofCode code) .region fun region => .address region.base
  | info => exact exec_onRegion fun region _ => exec_plain region.mappedLength (.info region)
  | read start stop => exact exec_onRegion fun region _ => exec_plain _ _
  | write offset bytes => exact exec_onRegion fun region _ => exec_plain _ _
  | fill value => exact exec_onRegion fun region _ => exec_plain _ _
  | free => exact exec_consume Region.free
  | discard => exact exec_consume Region.discard
  | makeExecutable =>
      refine exec_onRegion fun region _ => ?_
      rcases ran : region.makeExecutable.exec logging context with ⟨stop | changed, later⟩
      · simp [Job.exec, Job.slots, answerOf, StepM.op, exec_ofOp, ran]
      · simp [Job.exec, Job.slots, answerOf, StepM.op, exec_ofOp, ran, exec_put]
  | call arguments offset =>
      refine exec_onRegion fun region _ => ?_
      cases region.entry? with
      | some entry => exact exec_plain _ _
      | none => rfl

/-- **Running a call is running its job.** -/
theorem Call.exec_run (call : Call) :
    call.run.exec logging (context, slots) = runJob slots (call.job slots) logging context := by
  cases call with
  | pageSize => exact exec_plain ExecMemory.pageSize .size
  | lastError => exact exec_plain ExecMemory.lastError fun errno => .number errno.code
  | setLastError errno => exact exec_plain (ExecMemory.setLastError errno) fun _ => .unit
  | mapping call => exact call.exec_run logging context slots
  | c call => exact call.exec_run logging context slots
  | region id call => exact call.exec_run logging context slots id

end Calls

/-! ## The steps of a script -/

section Halts

variable {α : Type} {slots : Slots} {halt : Halt}

theorem Job.create_error {id : SlotId} {op : Op α} {slot : α → Slot} {answer : α → Value}
    (found : create slots id op slot answer = .error halt) : halt = .slotInUse := by
  unfold create at found
  split at found <;> cases found
  rfl

theorem Job.atPlace_error {place : Place} {op : UInt64 → Op α} {answer : α → Value}
    (found : atPlace slots place op answer = .error halt) : halt = .noSuchSlot := by
  unfold atPlace at found
  split at found <;> cases found
  rfl

theorem Job.onRegion_error {id : SlotId} {job : Region → Job}
    (found : onRegion slots id job = .error halt) : halt = .noSuchSlot := by
  unfold onRegion at found
  split at found <;> cases found
  rfl

/-! What holds of the operation that is looked up holds of the operation of the job. -/

theorem Job.of_create {job : Job} {id : SlotId} {op : Op α} {slot : α → Slot} {answer : α → Value}
    (P : {α : Type} → Op α → Prop) (holds : P op)
    (found : create slots id op slot answer = .ok job) :
    P job.op := by
  unfold create at found
  split at found <;> cases found
  exact holds

theorem Job.of_atPlace {job : Job} {place : Place} {op : UInt64 → Op α} {answer : α → Value}
    (P : {α : Type} → Op α → Prop) (holds : ∀ address, P (op address))
    (found : atPlace slots place op answer = .ok job) : P job.op := by
  unfold atPlace at found
  split at found <;> cases found
  exact holds _

theorem Job.of_onRegion {job : Job} {id : SlotId} {next : Region → Job}
    (P : {α : Type} → Op α → Prop) (holds : ∀ region, P (next region).op)
    (found : onRegion slots id next = .ok job) : P job.op := by
  unfold onRegion at found
  split at found <;> cases found
  exact holds _

/-- A call that does not start says that a slot is not as it needs it. -/
theorem Call.job_error {call : Call} (found : call.job slots = .error halt) :
    halt = .noSuchSlot ∨ halt = .slotInUse := by
  cases call with
  | pageSize | lastError | setLastError errno => cases found
  | mapping call =>
      cases call with
      | length size => cases found
      | alloc slot size => exact .inr (create_error found)
      | _ => exact .inl (atPlace_error found)
  | c call =>
      cases call with
      | pageSize | errno => cases found
      | alloc slot size =>
          change (match slots.get? slot with | some _ => _ | none => _) = _ at found
          split at found <;> cases found
          exact .inr rfl
      | _ => exact .inl (atPlace_error found)
  | region id call =>
      cases call with
      | allocate size => exact .inr (create_error found)
      | ofCode code => exact .inr (create_error found)
      | _ => exact .inl (onRegion_error found)

end Halts

namespace Machine

variable {logging : Logging} {machine : Machine} {call : Call} {inThread : Bool}

/-- What a call finds when it starts: a new thread has no last error yet. -/
def start (machine : Machine) (inThread : Bool) : Context :=
  .start machine.host (if inThread then .success else machine.lastError)

theorem step_halted {halt : Halt} (found : call.job machine.slots = .error halt) :
    ∃ lastError, machine.step logging (.library call inThread) =
      (⟨.error halt, lastError, [], [], machine.host.layout⟩, machine) := by
  have ran := call.exec_run logging (machine.start inThread) machine.slots
  rw [found] at ran
  refine step_of_exec_undone (.library call inThread) ran ?_
  rcases Call.job_error found with rfl | rfl
  · rfl
  · rfl

variable {job : Job} {result : Except Stop job.α} {later : Context}

/-- The answer of a step, from the run of the operation. -/
theorem step_job (found : call.job machine.slots = .ok job)
    (ran : job.op.exec logging (machine.start inThread) = (result, later))
    (kept : result ≠ .error .fault) :
    machine.step logging (.library call inThread) =
      (⟨answerOf job.answer result, later.lastError, later.calls, later.records, later.host.layout⟩,
        ⟨later.host, if inThread then machine.lastError else later.lastError,
          job.slots result⟩) := by
  have stepped := call.exec_run logging (machine.start inThread) machine.slots
  rw [found] at stepped
  change _ = job.exec logging (machine.start inThread) at stepped
  unfold Job.exec at stepped
  rw [ran] at stepped
  refine step_of_exec (.library call inThread) stepped ?_
  rcases result with (error | panic | _) | value
  · rfl
  · rfl
  · exact absurd rfl kept
  · rfl

/-- The same, as far as memory is concerned. -/
theorem steps_job {host : Host} {calls : List SysCall} (found : call.job machine.slots = .ok job)
    (ends : job.op.Ends logging (machine.start inThread) result host calls)
    (kept : result ≠ .error .fault) :
    machine.Steps logging (.library call inThread) (answerOf job.answer result) calls host
      (job.slots result) := by
  obtain ⟨lastError, records, ran⟩ := ends
  constructor <;> rw [step_job found ran kept]
  rfl

theorem step_job_fault (found : call.job machine.slots = .ok job)
    (ran : job.op.exec logging (machine.start inThread) = (.error .fault, later)) :
    (machine.step logging (.library call inThread)).1.result = .error (.stop .fault) := by
  have stepped := call.exec_run logging (machine.start inThread) machine.slots
  rw [found] at stepped
  change _ = job.exec logging (machine.start inThread) at stepped
  unfold Job.exec at stepped
  rw [ran] at stepped
  obtain ⟨_, undone⟩ := step_of_exec_undone (.library call inThread) stepped rfl
  rw [undone]
  rfl

/-- A step with a value ran its operation to the end. -/
theorem job_of_answered {value : Value}
    (answered : (machine.step logging (.library call inThread)).1.result = .ok value) :
    ∃ (job : Job) (returned : job.α) (later : Context), call.job machine.slots = .ok job ∧
      job.op.exec logging (machine.start inThread) = (.ok returned, later) ∧
      job.answer returned = value ∧
      (machine.step logging (.library call inThread)).2.host = later.host := by
  cases found : call.job machine.slots with
  | error halt =>
      obtain ⟨_, stepped⟩ := @step_halted logging machine call inThread halt found
      rw [stepped] at answered
      cases answered
  | ok job =>
      rcases ran : job.op.exec logging (machine.start inThread) with ⟨stop | returned, later⟩
      · by_cases fault : stop = .fault
        · subst fault
          rw [step_job_fault found ran] at answered
          cases answered
        · rw [step_job found ran fun same => fault (Except.error.inj same)] at answered
          cases answered
      · have stepped := @step_job logging machine call inThread job _ _ found ran nofun
        rw [stepped] at answered ⊢
        exact ⟨job, returned, later, rfl, ran, Except.ok.inj answered, rfl⟩

end Machine

end ExecMemory
