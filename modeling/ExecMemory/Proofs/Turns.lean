import ExecMemory.Proofs.Endings
import ExecMemory.Proofs.Rounding
import ExecMemory.Script.Machine

/-!
# What a call on a region can do

`Turn` lists, once and for all, the ways in which a call on the region of a slot can go: what it
asks the host, what it makes of each answer, and what becomes of the slots. `regionStep_turn` shows
that every step of a script that calls a region goes in one of these ways. What a region call
preserves is proved by going through the list.

The list is about any host; how the host answers is the subject of `HostReplies`. The last error,
the log and the thread a step runs in play no part in it.
-/

namespace ExecMemory

/-- The size of the region a call creates, if it creates one. -/
def RegionCall.newSize? : RegionCall → Option UInt64
  | .allocate size => some size
  | .ofCode code => some (.ofNat code.length)
  | _ => none

/-- A call that needs a writable region. -/
def RegionCall.changes : RegionCall → Bool
  | .makeExecutable | .write .. | .fill _ => true
  | _ => false

/-- The answer of a read from the region's bytes. -/
def Region.readAnswer (region : Region) (memory : Memory) (start stop : UInt64) :
    Except Halt Value :=
  match checkRange start stop region.size with
  | .error panic => .error (.stop (.panic panic))
  | .ok () =>
    match memory.read? (region.base.toNat + start.toNat) (stop.toNat - start.toNat) with
    | some bytes => .ok (.bytes bytes)
    | none => .error (.stop .fault)

/-- A call on slot `id`, made with `host` and `slots`, answers with a result, makes host calls and
leaves a host and slots. -/
inductive Turn (host : Host) (slots : Slots) (id : SlotId) :
    RegionCall → Except Halt Value → List SysCall → Host → Slots → Prop
  -- the slot is not as the call needs it
  | missing {call : RegionCall} (uses : call.newSize? = none)
      (absent : ∀ region, slots.get? id ≠ some (.region region)) :
      Turn host slots id call (.error .noSuchSlot) [] host slots
  | occupied {call : RegionCall} {size : UInt64} {slot : Slot}
      (creates : call.newSize? = some size) (held : slots.get? id = some slot) :
      Turn host slots id call (.error .slotInUse) [] host slots
  -- no region is created
  | tooLarge {call : RegionCall} {size : UInt64} (creates : call.newSize? = some size)
      (empty : slots.get? id = none) (overflows : mappingLength size host.pageSize = .ok none) :
      Turn host slots id call (.error (.stop (.error .tooLarge))) [] host slots
  | mapRefused {call : RegionCall} {size length : UInt64} {errno : Errno} {later : Host}
      (creates : call.newSize? = some size) (empty : slots.get? id = none)
      (rounds : mappingLength size host.pageSize = .ok (some length))
      (called : host.call (.map length .readWrite) = (.error errno, later)) :
      Turn host slots id call (.error (.stop (.error (.outOfMemory errno))))
        [⟨.map length .readWrite, .error errno⟩] later slots
  | mapNull {call : RegionCall} {size length : UInt64} {errno : Errno} {later : Host}
      (creates : call.newSize? = some size) (empty : slots.get? id = none)
      (rounds : mappingLength size host.pageSize = .ok (some length))
      (called : host.call (.map length .readWrite) = (.ok 0, later)) :
      Turn host slots id call (.error (.stop (.error (.outOfMemory errno))))
        [⟨.map length .readWrite, .ok 0⟩] later slots
  -- a region is created
  | allocated {size length base : UInt64} {later : Host} (empty : slots.get? id = none)
      (rounds : mappingLength size host.pageSize = .ok (some length))
      (called : host.call (.map length .readWrite) = (.ok base, later)) (notNull : base ≠ 0) :
      Turn host slots id (.allocate size) (.ok (.address base))
        [⟨.map length .readWrite, .ok base⟩] later
        (slots.insert id (.region ⟨base, size, .writable⟩))
  | compiled {code : List UInt8} {length base value : UInt64} {mapped later : Host}
      {memory : Memory} (empty : slots.get? id = none)
      (rounds : mappingLength (.ofNat code.length) host.pageSize = .ok (some length))
      (called : host.call (.map length .readWrite) = (.ok base, mapped)) (notNull : base ≠ 0)
      (fits : code.length < UInt64.size)
      (written : mapped.memory.write? base.toNat code.length (byteAt code) = some memory)
      (changed : { mapped with memory }.call (.protect base length .readExec) =
        (.ok value, later)) :
      Turn host slots id (.ofCode code) (.ok (.address base))
        [⟨.map length .readWrite, .ok base⟩, ⟨.protect base length .readExec, .ok value⟩] later
        (slots.insert id (.region ⟨base, .ofNat code.length, .executable⟩))
  -- a region is created, cannot be finished, and is discarded
  | unprotected {code : List UInt8} {length base : UInt64} {errno : Errno} {reply : Reply}
      {mapped refused later : Host} {memory : Memory} (empty : slots.get? id = none)
      (rounds : mappingLength (.ofNat code.length) host.pageSize = .ok (some length))
      (called : host.call (.map length .readWrite) = (.ok base, mapped)) (notNull : base ≠ 0)
      (fits : code.length < UInt64.size)
      (written : mapped.memory.write? base.toNat code.length (byteAt code) = some memory)
      (denied : { mapped with memory }.call (.protect base length .readExec) =
        (.error errno, refused))
      (cleaned : refused.call (.unmap base length) = (reply, later)) :
      Turn host slots id (.ofCode code)
        (.error (.stop (.error (Mapping.classify .protect errno))))
        [⟨.map length .readWrite, .ok base⟩, ⟨.protect base length .readExec, .error errno⟩,
          ⟨.unmap base length, reply⟩] later slots
  | overlong {code : List UInt8} {length base : UInt64} {reply : Reply} {mapped later : Host}
      (empty : slots.get? id = none)
      (rounds : mappingLength (.ofNat code.length) host.pageSize = .ok (some length))
      (called : host.call (.map length .readWrite) = (.ok base, mapped)) (notNull : base ≠ 0)
      (tooLong : ¬ code.length < UInt64.size)
      (cleaned : mapped.call (.unmap base length) = (reply, later)) :
      Turn host slots id (.ofCode code) (.error (.stop (.error .invalidArgument)))
        [⟨.map length .readWrite, .ok base⟩, ⟨.unmap base length, reply⟩] later slots
  | unwritable {code : List UInt8} {length base : UInt64} {mapped : Host}
      (empty : slots.get? id = none)
      (rounds : mappingLength (.ofNat code.length) host.pageSize = .ok (some length))
      (called : host.call (.map length .readWrite) = (.ok base, mapped)) (notNull : base ≠ 0)
      (fits : code.length < UInt64.size)
      (refused : mapped.memory.write? base.toNat code.length (byteAt code) = none) :
      Turn host slots id (.ofCode code) (.error (.stop .fault)) [] host slots
  -- the region is looked at
  | info {region : Region} {length : UInt64} (held : slots.get? id = some (.region region))
      (rounds : mappingLength region.size host.pageSize = .ok (some length)) :
      Turn host slots id .info (.ok (.info region length)) [] host slots
  | read {region : Region} {start : UInt64} {stop : Option UInt64}
      (held : slots.get? id = some (.region region)) :
      Turn host slots id (.read start stop)
        (region.readAnswer host.memory start (stop.getD region.size)) [] host slots
  | called {region : Region} {arguments : List Int32} {offset : Int} {result : Except Halt Value}
      (held : slots.get? id = some (.region region)) :
      Turn host slots id (.call arguments offset) result [] host slots
  -- the region's bytes are changed
  | locked {call : RegionCall} {region : Region} (changes : call.changes = true)
      (held : slots.get? id = some (.region region)) (executable : region.state = .executable) :
      Turn host slots id call (.error (.stop (.error .invalidState))) [] host slots
  | outside {region : Region} {offset : UInt64} {bytes : List UInt8}
      (held : slots.get? id = some (.region region)) (writable : region.state = .writable)
      (outside : ¬ offset.toNat + bytes.length ≤ region.size.toNat) :
      Turn host slots id (.write offset bytes) (.error (.stop (.error .invalidArgument))) [] host
        slots
  | written {region : Region} {offset : UInt64} {bytes : List UInt8} {memory : Memory}
      (held : slots.get? id = some (.region region)) (writable : region.state = .writable)
      (inside : offset.toNat + bytes.length ≤ region.size.toNat)
      (written : host.memory.write? (region.base.toNat + offset.toNat) bytes.length
        (byteAt bytes) = some memory) :
      Turn host slots id (.write offset bytes) (.ok .unit) [] { host with memory } slots
  | writeFault {region : Region} {offset : UInt64} {bytes : List UInt8}
      (held : slots.get? id = some (.region region)) (writable : region.state = .writable)
      (inside : offset.toNat + bytes.length ≤ region.size.toNat)
      (refused : host.memory.write? (region.base.toNat + offset.toNat) bytes.length
        (byteAt bytes) = none) :
      Turn host slots id (.write offset bytes) (.error (.stop .fault)) [] host slots
  | filled {region : Region} {byte : UInt8} {memory : Memory}
      (held : slots.get? id = some (.region region)) (writable : region.state = .writable)
      (written : host.memory.write? region.base.toNat region.size.toNat (fun _ => byte) =
        some memory) :
      Turn host slots id (.fill byte) (.ok (.size region.size)) [] { host with memory } slots
  | fillFault {region : Region} {byte : UInt8}
      (held : slots.get? id = some (.region region)) (writable : region.state = .writable)
      (refused : host.memory.write? region.base.toNat region.size.toNat (fun _ => byte) = none) :
      Turn host slots id (.fill byte) (.error (.stop .fault)) [] host slots
  -- the region changes its state
  | madeExecutable {region : Region} {length value : UInt64} {later : Host}
      (held : slots.get? id = some (.region region)) (writable : region.state = .writable)
      (rounds : mappingLength region.size host.pageSize = .ok (some length))
      (called : host.call (.protect region.base length .readExec) = (.ok value, later)) :
      Turn host slots id .makeExecutable (.ok .unit)
        [⟨.protect region.base length .readExec, .ok value⟩] later
        (slots.insert id (.region { region with state := .executable }))
  | notMadeExecutable {region : Region} {length : UInt64} {errno : Errno} {later : Host}
      (held : slots.get? id = some (.region region)) (writable : region.state = .writable)
      (rounds : mappingLength region.size host.pageSize = .ok (some length))
      (called : host.call (.protect region.base length .readExec) = (.error errno, later)) :
      Turn host slots id .makeExecutable
        (.error (.stop (.error (Mapping.classify .protect errno))))
        [⟨.protect region.base length .readExec, .error errno⟩] later slots
  -- the region ends
  | freed {region : Region} {length value : UInt64} {later : Host}
      (held : slots.get? id = some (.region region))
      (rounds : mappingLength region.size host.pageSize = .ok (some length))
      (called : host.call (.unmap region.base length) = (.ok value, later)) :
      Turn host slots id .free (.ok .unit) [⟨.unmap region.base length, .ok value⟩] later
        (slots.erase id)
  | freeRefused {region : Region} {length : UInt64} {errno : Errno} {later : Host}
      (held : slots.get? id = some (.region region))
      (rounds : mappingLength region.size host.pageSize = .ok (some length))
      (called : host.call (.unmap region.base length) = (.error errno, later)) :
      Turn host slots id .free (.error (.stop (.error (.invalidRegion errno))))
        [⟨.unmap region.base length, .error errno⟩] later (slots.erase id)
  | discarded {region : Region} {length : UInt64} {reply : Reply} {later : Host}
      (held : slots.get? id = some (.region region))
      (rounds : mappingLength region.size host.pageSize = .ok (some length))
      (called : host.call (.unmap region.base length) = (reply, later)) :
      Turn host slots id .discard (.ok .unit) [⟨.unmap region.base length, reply⟩] later
        (slots.erase id)

/-! ## How a step uses the slots -/

section Slots

variable {logging : Logging} {context : Context} {slots : Slots} {id : SlotId} {region : Region}

theorem exec_region (held : slots.get? id = some (.region region)) :
    (StepM.region id).exec logging (context, slots) = (.ok region, context, slots) := by
  simp [StepM.region, StepM.slot, held]

theorem exec_region_absent (absent : ∀ region, slots.get? id ≠ some (.region region)) :
    (StepM.region id).exec logging (context, slots) = (.error .noSuchSlot, context, slots) := by
  cases found : slots.get? id with
  | none => simp [StepM.region, StepM.slot, found]
  | some slot =>
      cases slot with
      | raw address => simp [StepM.region, StepM.slot, found]
      | region region => exact absurd found (absent region)

theorem exec_takeRegion (held : slots.get? id = some (.region region)) :
    (StepM.takeRegion id).exec logging (context, slots) =
      (.ok region, context, slots.erase id) := by
  simp [StepM.takeRegion, exec_region held]

theorem exec_takeRegion_absent (absent : ∀ region, slots.get? id ≠ some (.region region)) :
    (StepM.takeRegion id).exec logging (context, slots) =
      (.error .noSuchSlot, context, slots) := by
  simp [StepM.takeRegion, exec_region_absent absent]

theorem exec_requireEmpty (empty : slots.get? id = none) :
    (StepM.requireEmpty id).exec logging (context, slots) = (.ok (), context, slots) := by
  simp [StepM.requireEmpty, empty]

theorem exec_requireEmpty_held {slot : Slot} (held : slots.get? id = some slot) :
    (StepM.requireEmpty id).exec logging (context, slots) =
      (.error .slotInUse, context, slots) := by
  simp [StepM.requireEmpty, held]

theorem exec_put (slot : Slot) :
    (StepM.put id slot).exec logging (context, slots) = (.ok (), context, slots.insert id slot) :=
  rfl

end Slots

/-- The step is undone as a whole: it could not start, or it touched memory it must not touch. -/
def undoes : Except Halt Value → Bool
  | .error .noSuchSlot | .error .slotInUse | .error (.stop .fault) => true
  | _ => false

/-- What is seen of a step apart from the last error and the log. -/
structure Machine.Steps (logging : Logging) (machine : Machine) (step : Step)
    (result : Except Halt Value) (calls : List SysCall) (host : Host) (slots : Slots) : Prop where
  result_eq : (machine.step logging step).1.result = result
  calls_eq : (machine.step logging step).1.calls = calls
  host_eq : (machine.step logging step).2.host = host
  slots_eq : (machine.step logging step).2.slots = slots

namespace Machine

variable {logging : Logging} {machine : Machine} {result : Except Halt Value} {context : Context}
  {slots : Slots}

/-- A step that is not undone keeps what its run did. -/
theorem step_of_exec (step : Step)
    (ran : step.run.exec logging
      (.start machine.host (if step.inOwnThread then .success else machine.lastError),
        machine.slots) = (result, context, slots))
    (kept : undoes result = false) :
    machine.step logging step =
      (⟨result, context.lastError, context.calls, context.records, context.host.layout⟩,
        ⟨context.host, if step.inOwnThread then machine.lastError else context.lastError,
          slots⟩) := by
  unfold Machine.step
  dsimp only
  rw [ran]
  dsimp only
  split
  · cases kept
  · cases kept
  · cases kept
  · rfl

/-- A step that is undone leaves no trace but its answer. -/
theorem step_of_exec_undone (step : Step)
    (ran : step.run.exec logging
      (.start machine.host (if step.inOwnThread then .success else machine.lastError),
        machine.slots) = (result, context, slots))
    (undone : undoes result = true) :
    ∃ lastError, machine.step logging step =
      (⟨result, lastError, [], [], machine.host.layout⟩, machine) := by
  unfold Machine.step
  dsimp only
  rw [ran]
  dsimp only
  split
  · exact ⟨_, rfl⟩
  · exact ⟨_, rfl⟩
  · exact ⟨_, rfl⟩
  · rename_i notMissing notInUse notFault
    unfold undoes at undone
    split at undone
    · exact absurd rfl notMissing
    · exact absurd rfl notInUse
    · exact absurd rfl notFault
    · cases undone

theorem steps_of_exec (step : Step)
    (ran : step.run.exec logging
      (.start machine.host (if step.inOwnThread then .success else machine.lastError),
        machine.slots) = (result, context, slots))
    (kept : undoes result = false) :
    machine.Steps logging step result context.calls context.host slots := by
  constructor <;> rw [step_of_exec step ran kept]

theorem steps_of_exec_undone (step : Step)
    (ran : step.run.exec logging
      (.start machine.host (if step.inOwnThread then .success else machine.lastError),
        machine.slots) = (result, context, slots))
    (undone : undoes result = true) :
    machine.Steps logging step result [] machine.host machine.slots := by
  obtain ⟨lastError, stepped⟩ := step_of_exec_undone step ran undone
  constructor <;> rw [stepped]

end Machine

/-! ## How a call on a region runs

A call first looks up its slot and then runs one operation. The lemmas below take the ending of that
operation to the ending of the step. -/

/-- Like `Op.Ends`, with the slots before and after. -/
def StepM.Ends (run : StepM Value) (logging : Logging) (context : Context) (slots : Slots)
    (result : Except Halt Value) (host : Host) (calls : List SysCall) (slots' : Slots) : Prop :=
  ∃ lastError records, run.exec logging (context, slots) =
    (result, ⟨host, lastError, context.calls ++ calls, records⟩, slots')

/-- The answer of a step from the result of its operation. -/
def answerOf {α : Type} (answer : α → Value) : Except Stop α → Except Halt Value
  | .ok value => .ok (answer value)
  | .error stop => .error (.stop stop)

section Running

variable {α : Type} {logging : Logging} {context : Context} {host : Host} {slots : Slots}
  {id : SlotId} {region : Region} {calls : List SysCall}

theorem ends_create {op : Op Region} {created : Region} (empty : slots.get? id = none)
    (ends : Op.Ends op logging context (.ok created) host calls) :
    StepM.Ends (do
        StepM.requireEmpty id
        let region ← StepM.op op
        StepM.put id (.region region)
        return .address region.base) logging context slots
      (.ok (.address created.base)) host calls (slots.insert id (.region created)) := by
  obtain ⟨lastError, records, ran⟩ := ends
  refine ⟨lastError, records, ?_⟩
  simp [exec_requireEmpty empty, StepM.op, exec_ofOp, ran, exec_put]

theorem ends_create_error {op : Op Region} {stop : Stop} (empty : slots.get? id = none)
    (ends : Op.Ends op logging context (.error stop) host calls) :
    StepM.Ends (do
        StepM.requireEmpty id
        let region ← StepM.op op
        StepM.put id (.region region)
        return .address region.base) logging context slots
      (.error (.stop stop)) host calls slots := by
  obtain ⟨lastError, records, ran⟩ := ends
  refine ⟨lastError, records, ?_⟩
  simp [exec_requireEmpty empty, StepM.op, exec_ofOp, ran]

theorem ends_use {op : Region → Op α} {answer : Region → α → Value} {result : Except Stop α}
    (held : slots.get? id = some (.region region))
    (ends : Op.Ends (op region) logging context result host calls) :
    StepM.Ends (do
        let region ← StepM.region id
        let value ← StepM.op (op region)
        return answer region value) logging context slots
      (answerOf (answer region) result) host calls slots := by
  obtain ⟨lastError, records, ran⟩ := ends
  refine ⟨lastError, records, ?_⟩
  cases result with
  | ok value => simp [exec_region held, StepM.op, exec_ofOp, ran, answerOf]
  | error stop => simp [exec_region held, StepM.op, exec_ofOp, ran, answerOf]

theorem ends_replace {op : Region → Op Region} {changed : Region}
    (held : slots.get? id = some (.region region))
    (ends : Op.Ends (op region) logging context (.ok changed) host calls) :
    StepM.Ends (do
        let region ← StepM.region id
        StepM.put id (.region (← StepM.op (op region)))
        return .unit) logging context slots
      (.ok .unit) host calls (slots.insert id (.region changed)) := by
  obtain ⟨lastError, records, ran⟩ := ends
  refine ⟨lastError, records, ?_⟩
  simp [exec_region held, StepM.op, exec_ofOp, ran, exec_put]

theorem ends_replace_error {op : Region → Op Region} {stop : Stop}
    (held : slots.get? id = some (.region region))
    (ends : Op.Ends (op region) logging context (.error stop) host calls) :
    StepM.Ends (do
        let region ← StepM.region id
        StepM.put id (.region (← StepM.op (op region)))
        return .unit) logging context slots
      (.error (.stop stop)) host calls slots := by
  obtain ⟨lastError, records, ran⟩ := ends
  refine ⟨lastError, records, ?_⟩
  simp [exec_region held, StepM.op, exec_ofOp, ran]

/-- The region has left its slot whatever the operation answers. -/
theorem ends_consume {op : Region → Op Unit} {result : Except Stop Unit}
    (held : slots.get? id = some (.region region))
    (ends : Op.Ends (op region) logging context result host calls) :
    StepM.Ends (do
        let region ← StepM.takeRegion id
        StepM.op (op region)
        return .unit) logging context slots
      (answerOf (fun _ => .unit) result) host calls (slots.erase id) := by
  obtain ⟨lastError, records, ran⟩ := ends
  refine ⟨lastError, records, ?_⟩
  cases result with
  | ok value => simp [exec_takeRegion held, StepM.op, exec_ofOp, ran, answerOf]
  | error stop => simp [exec_takeRegion held, StepM.op, exec_ofOp, ran, answerOf]

end Running

/-! ## Every call on a region goes in one of the listed ways -/

/-- The run of a call ends as one of the turns, or is undone as one of them. -/
def Turns (logging : Logging) (context : Context) (slots : Slots) (id : SlotId)
    (call : RegionCall) : Prop :=
  ∃ result later calls slots',
    StepM.Ends (call.run id) logging context slots result later calls slots' ∧
    if undoes result then Turn context.host slots id call result [] context.host slots
    else Turn context.host slots id call result calls later slots'

section Turns

variable {logging : Logging} {context : Context} {slots : Slots} {id : SlotId}
  {call : RegionCall}

theorem turns_kept {result : Except Halt Value} {later : Host} {calls : List SysCall}
    {slots' : Slots} (ends : StepM.Ends (call.run id) logging context slots result later calls
      slots')
    (kept : undoes result = false)
    (turn : Turn context.host slots id call result calls later slots') :
    Turns logging context slots id call := by
  refine ⟨result, later, calls, slots', ends, ?_⟩
  rw [kept]
  exact turn

theorem turns_undone {result : Except Halt Value} {later : Host} {calls : List SysCall}
    {slots' : Slots} (ends : StepM.Ends (call.run id) logging context slots result later calls
      slots')
    (undone : undoes result = true)
    (turn : Turn context.host slots id call result [] context.host slots) :
    Turns logging context slots id call := by
  refine ⟨result, later, calls, slots', ends, ?_⟩
  rw [undone]
  exact turn

/-- An allocation that fails ends any call that starts with it; otherwise the host has mapped
memory. -/
theorem allocate_fails_or_maps (logging : Logging)
    (power : context.host.pageSize.toNat.isPowerOfTwo) (empty : slots.get? id = none)
    (size : UInt64) :
    (∃ error later calls,
      Op.Ends (Region.allocate size) logging context (.error (.error error)) later calls ∧
      ∀ call : RegionCall, call.newSize? = some size →
        Turn context.host slots id call (.error (.stop (.error error))) calls later slots) ∨
    ∃ length base later, mappingLength size context.host.pageSize = .ok (some length) ∧
      context.host.call (.map length .readWrite) = (.ok base, later) ∧ base ≠ 0 := by
  have rounding := mappingLength_eq size power
  by_cases fits : leastMultiple size.toNat context.host.pageSize.toNat < UInt64.size
  · rw [if_pos fits] at rounding
    rcases called : context.host.call (.map (mappedBytes size context.host.pageSize) .readWrite)
      with ⟨errno | base, later⟩
    · refine .inl ⟨_, later, _, (Mapping.ends_alloc_refused rfl rounding called).bind_error, ?_⟩
      intro call creates
      exact .mapRefused creates empty rounding called
    · by_cases null : base = 0
      · subst null
        obtain ⟨errno, ends⟩ := Mapping.ends_alloc_null logging rfl rounding called
        refine .inl ⟨_, later, _, ends.bind_error, ?_⟩
        intro call creates
        exact .mapNull creates empty rounding called
      · exact .inr ⟨_, base, later, rounding, called, null⟩
  · rw [if_neg fits] at rounding
    refine .inl ⟨_, _, _, (Mapping.ends_length_tooLarge rfl rounding).bind_error.bind_error, ?_⟩
    intro call creates
    exact .tooLarge creates empty rounding

theorem turns_occupied {slot : Slot} {size : UInt64} (creates : call.newSize? = some size)
    (held : slots.get? id = some slot) : Turns logging context slots id call := by
  have ends : StepM.Ends (call.run id) logging context slots (.error .slotInUse) context.host []
      slots := by
    refine ⟨context.lastError, context.records, ?_⟩
    cases call with
    | allocate size => simp [RegionCall.run, exec_requireEmpty_held held]
    | ofCode code => simp [RegionCall.run, exec_requireEmpty_held held]
    | _ => cases creates
  exact turns_undone ends rfl (.occupied creates held)

theorem turns_missing (uses : call.newSize? = none)
    (absent : ∀ region, slots.get? id ≠ some (.region region)) :
    Turns logging context slots id call := by
  have ends : StepM.Ends (call.run id) logging context slots (.error .noSuchSlot) context.host []
      slots := by
    refine ⟨context.lastError, context.records, ?_⟩
    cases call with
    | allocate size => cases uses
    | ofCode code => cases uses
    | free => simp [RegionCall.run, exec_takeRegion_absent absent]
    | discard => simp [RegionCall.run, exec_takeRegion_absent absent]
    | _ => simp [RegionCall.run, exec_region_absent absent]
  exact turns_undone ends rfl (.missing uses absent)

theorem turns_allocate (power : context.host.pageSize.toNat.isPowerOfTwo)
    (empty : slots.get? id = none) (size : UInt64) :
    Turns logging context slots id (.allocate size) := by
  rcases allocate_fails_or_maps logging power empty size with
    ⟨error, later, calls, ends, turn⟩ | ⟨length, base, later, rounds, called, notNull⟩
  · exact turns_kept (ends_create_error empty ends) rfl (turn _ rfl)
  · exact turns_kept (ends_create empty (Region.ends_allocate rfl rounds called notNull)) rfl
      (.allocated empty rounds called notNull)

theorem turns_ofCode (power : context.host.pageSize.toNat.isPowerOfTwo)
    (empty : slots.get? id = none) (code : List UInt8) :
    Turns logging context slots id (.ofCode code) := by
  rcases allocate_fails_or_maps logging power empty (.ofNat code.length) with
    ⟨error, later, calls, ends, turn⟩ | ⟨length, base, mapped, rounds, called, notNull⟩
  · exact turns_kept (ends_create_error empty ends.bind_error) rfl (turn _ rfl)
  by_cases fits : code.length < UInt64.size
  · cases written : mapped.memory.write? base.toNat code.length (byteAt code) with
    | none =>
        have ends := Region.ends_ofCode_unwritable logging rfl rounds called notNull fits written
        exact turns_undone (ends_create_error empty ends) rfl
          (.unwritable empty rounds called notNull fits written)
    | some memory =>
        rcases changed : { mapped with memory }.call (.protect base length .readExec) with
          ⟨errno | value, after⟩
        · rcases cleaned : after.call (.unmap base length) with ⟨reply, later⟩
          have ends := Region.ends_ofCode_unprotected logging rfl rounds called notNull fits written
            changed cleaned
          exact turns_kept (ends_create_error empty ends) rfl
            (.unprotected empty rounds called notNull fits written changed cleaned)
        · have ends := Region.ends_ofCode_compiled logging rfl rounds called notNull fits written
            changed
          exact turns_kept (ends_create empty ends) rfl
            (.compiled empty rounds called notNull fits written changed)
  · rcases cleaned : mapped.call (.unmap base length) with ⟨reply, later⟩
    have ends := Region.ends_ofCode_overlong logging rfl rounds called notNull fits cleaned
    exact turns_kept (ends_create_error empty ends) rfl
      (.overlong empty rounds called notNull fits cleaned)

theorem turns_read {region : Region} (held : slots.get? id = some (.region region))
    (start : UInt64) (stop : Option UInt64) :
    Turns logging context slots id (.read start stop) := by
  have turn : Turn context.host slots id (.read start stop) _ [] context.host slots := .read held
  unfold Region.readAnswer at turn
  cases range : Region.checkRange start (stop.getD region.size) region.size with
  | error panic =>
      rw [range] at turn
      exact turns_kept (ends_use held (Region.ends_read_panic rfl range)) rfl turn
  | ok _ =>
      have ends := @Region.ends_read logging context _ _ rfl _ _ range
      rw [range] at turn
      dsimp only at turn
      split at turn
      · rename_i bytes found
        rw [found] at ends
        exact turns_kept (ends_use held ends) rfl turn
      · rename_i missing
        rw [missing] at ends
        exact turns_undone (ends_use held ends) rfl turn

theorem turns_call {region : Region} (held : slots.get? id = some (.region region))
    (arguments : List Int32) (offset : Int) :
    Turns logging context slots id (.call arguments offset) := by
  cases entry : region.entry? with
  | none =>
      have ends : StepM.Ends (RegionCall.run id (.call arguments offset)) logging context slots
          (.error (.stop (.error .invalidState))) context.host [] slots := by
        refine ⟨context.lastError, context.records, ?_⟩
        simp [RegionCall.run, exec_region held, entry, StepM.op, exec_ofOp]
      exact turns_kept ends rfl (.called held)
  | some address =>
      obtain ⟨result, lastError, records, ran⟩ : ∃ result,
          Op.Ends (callWith (address + UInt64.ofInt offset) arguments) logging context result
            context.host [] := ends_callCode logging context _ _ _
      have ends : StepM.Ends (RegionCall.run id (.call arguments offset)) logging context slots
          (answerOf Value.number result) context.host [] slots := by
        refine ⟨lastError, records, ?_⟩
        cases result with
        | ok value =>
            simp [RegionCall.run, exec_region held, entry, StepM.op, exec_ofOp, ran, answerOf]
        | error stop =>
            simp [RegionCall.run, exec_region held, entry, StepM.op, exec_ofOp, ran, answerOf]
      refine ⟨_, _, _, _, ends, ?_⟩
      split
      · exact .called held
      · exact .called held

/-- Calls on the region that a slot holds. -/
theorem turns_held {region : Region} {length : UInt64}
    (held : slots.get? id = some (.region region)) (uses : call.newSize? = none)
    (rounds : mappingLength region.size context.host.pageSize = .ok (some length)) :
    Turns logging context slots id call := by
  cases call with
  | allocate size => cases uses
  | ofCode code => cases uses
  | info =>
      exact turns_kept (ends_use held (Region.ends_mappedLength rfl rounds)) rfl (.info held rounds)
  | read start stop => exact turns_read held start stop
  | call arguments offset => exact turns_call held arguments offset
  | write offset bytes =>
      cases writable : region.state with
      | executable =>
          have ends : Op.Ends (region.write offset bytes) logging context
              (.error (.error .invalidState)) context.host [] :=
            (Region.ends_requireWritable_executable rfl writable).bind_error
          exact turns_kept (ends_use held ends) rfl (.locked rfl held writable)
      | writable =>
          by_cases inside : offset.toNat + bytes.length ≤ region.size.toNat
          · cases written : context.host.memory.write? (region.base.toNat + offset.toNat)
                bytes.length (byteAt bytes) with
            | some memory =>
                exact turns_kept (ends_use held (Region.ends_write rfl writable inside written)) rfl
                  (.written held writable inside written)
            | none =>
                exact turns_undone
                  (ends_use held (Region.ends_write_fault rfl writable inside written)) rfl
                  (.writeFault held writable inside written)
          · exact turns_kept (ends_use held (Region.ends_write_outside rfl writable inside)) rfl
              (.outside held writable inside)
  | fill byte =>
      cases writable : region.state with
      | executable =>
          have ends : Op.Ends (region.fill byte) logging context
              (.error (.error .invalidState)) context.host [] :=
            (Region.ends_requireWritable_executable rfl writable).bind_error
          exact turns_kept (ends_use held ends) rfl (.locked rfl held writable)
      | writable =>
          cases written : context.host.memory.write? region.base.toNat region.size.toNat
              (fun _ => byte) with
          | some memory =>
              exact turns_kept (ends_use held (Region.ends_fill rfl writable written)) rfl
                (.filled held writable written)
          | none =>
              exact turns_undone (ends_use held (Region.ends_fill_fault rfl writable written)) rfl
                (.fillFault held writable written)
  | makeExecutable =>
      cases writable : region.state with
      | executable =>
          have ends : Op.Ends region.makeExecutable logging context
              (.error (.error .invalidState)) context.host [] :=
            (Region.ends_requireWritable_executable rfl writable).bind_error
          exact turns_kept (ends_replace_error held ends) rfl (.locked rfl held writable)
      | writable =>
          rcases called : context.host.call (.protect region.base length .readExec) with
            ⟨errno | value, later⟩
          · exact turns_kept (ends_replace_error held
              (Region.ends_makeExecutable_refused rfl writable rounds called)) rfl
              (.notMadeExecutable held writable rounds called)
          · exact turns_kept (ends_replace held
              (Region.ends_makeExecutable rfl writable rounds called)) rfl
              (.madeExecutable held writable rounds called)
  | free =>
      rcases called : context.host.call (.unmap region.base length) with ⟨errno | value, later⟩
      · exact turns_kept (ends_consume held (Mapping.ends_release_refused rfl rounds called)) rfl
          (.freeRefused held rounds called)
      · exact turns_kept (ends_consume held (Mapping.ends_release rfl rounds called)) rfl
          (.freed held rounds called)
  | discard =>
      rcases called : context.host.call (.unmap region.base length) with ⟨reply, later⟩
      exact turns_kept (ends_consume held (Region.ends_discard rfl rounds called)) rfl
        (.discarded held rounds called)

end Turns

/-- **Every call on a region takes one of the listed turns**, in whatever thread it runs, provided
the page size is a power of two and the region in the slot has a rounding. -/
theorem regionStep_turn (logging : Logging) (machine : Machine) (id : SlotId) (call : RegionCall)
    (inThread : Bool) (power : machine.host.pageSize.toNat.isPowerOfTwo)
    (sized : ∀ region, machine.slots.get? id = some (.region region) →
      ∃ length, mappingLength region.size machine.host.pageSize = .ok (some length)) :
    ∃ result calls host slots,
      machine.Steps logging (.library (.region id call) inThread) result calls host slots ∧
      Turn machine.host machine.slots id call result calls host slots := by
  generalize started : Context.start machine.host
    (if (Step.library (.region id call) inThread).inOwnThread then .success
      else machine.lastError) = context
  have sameHost : context.host = machine.host := by rw [← started]; rfl
  have turns : Turns logging context machine.slots id call := by
    rw [← sameHost] at power sized
    cases uses : call.newSize? with
    | some size =>
        cases found : machine.slots.get? id with
        | some slot => exact turns_occupied uses found
        | none =>
            cases call with
            | allocate size => exact turns_allocate power found size
            | ofCode code => exact turns_ofCode power found code
            | _ => cases uses
    | none =>
        by_cases held : ∃ region, machine.slots.get? id = some (.region region)
        · obtain ⟨region, held⟩ := held
          obtain ⟨length, rounds⟩ := sized region held
          exact turns_held held uses rounds
        · exact turns_missing uses (fun region found => held ⟨region, found⟩)
  obtain ⟨result, later, calls, slots', ⟨lastError, records, ran⟩, turn⟩ := turns
  rw [← started] at ran
  rw [sameHost] at turn
  cases undone : undoes result with
  | true =>
      rw [undone] at turn
      exact ⟨result, [], _, _, Machine.steps_of_exec_undone (.library (.region id call) inThread)
        ran undone, turn⟩
  | false =>
      rw [undone] at turn
      exact ⟨result, calls, later, slots', Machine.steps_of_exec
        (.library (.region id call) inThread) ran undone, turn⟩

/-! ## Actions on the host -/

/-- An action on a host answers with a result and leaves a host. It never makes a host call. -/
inductive HostTurn (host : Host) : HostAction → Except Halt Value → Host → Prop
  | planned (plan : Plan) :
      HostTurn host (.plan plan) (.ok .unit) { host with plans := host.plans ++ [plan] }
  | resized (size : UInt64) :
      HostTurn host (.setPageSize size) (.ok .unit) { host with pageSize := size }
  | peeked {place : Place} {length : UInt64} {result : Except Halt Value} :
      HostTurn host (.peek place length) result host
  | called {place : Place} {arguments : List Int32} {result : Except Halt Value} :
      HostTurn host (.call place arguments) result host
  | poked {place : Place} {bytes : List UInt8} {start : Nat} {memory : Memory}
      (written : host.memory.write? start bytes.length (byteAt bytes) = some memory) :
      HostTurn host (.poke place bytes) (.ok .unit) { host with memory }
  | notPoked {place : Place} {bytes : List UInt8} {result : Except Halt Value} :
      HostTurn host (.poke place bytes) result host

/-- The address of a place, if it has one. -/
def Place.address? (slots : Slots) : Place → Option UInt64
  | .slot id offset => (slots.get? id).map fun slot => slot.base + .ofInt offset
  | .absolute address => some address

section HostActions

variable {α : Type} {logging : Logging} {context : Context} {slots : Slots} {place : Place}

theorem exec_resolve {address : UInt64} (found : place.address? slots = some address) :
    place.resolve.exec logging (context, slots) = (.ok address, context, slots) := by
  cases place with
  | slot id offset =>
      obtain ⟨slot, held, rfl⟩ := Option.map_eq_some_iff.mp found
      simp [Place.resolve, StepM.slot, held]
  | absolute address =>
      cases found
      rfl

theorem exec_resolve_missing (missing : place.address? slots = none) :
    place.resolve.exec logging (context, slots) = (.error .noSuchSlot, context, slots) := by
  cases place with
  | slot id offset =>
      have absent := Option.map_eq_none_iff.mp missing
      simp [Place.resolve, StepM.slot, absent]
  | absolute address => cases missing

/-- A step that resolves a place and then runs an operation ends as the operation does, and a fault
undoes it. -/
theorem steps_at_address {machine : Machine} {action : HostAction} {op : UInt64 → Op α}
    {answer : α → Value} {address : UInt64} {result : Except Stop α} {host : Host}
    (runs : action.run = do
      let address ← place.resolve
      let value ← StepM.op (op address)
      return answer value)
    (found : place.address? machine.slots = some address)
    (ends : Op.Ends (op address) logging (.start machine.host machine.lastError) result host []) :
    machine.Steps logging (.host action) (answerOf answer result) []
      (if undoes (answerOf answer result) then machine.host else host) machine.slots := by
  obtain ⟨lastError, records, ran⟩ := ends
  have stepped : (Step.host action).run.exec logging
      (.start machine.host machine.lastError, machine.slots) =
      (answerOf answer result, ⟨host, lastError, [], records⟩, machine.slots) := by
    have noCalls : (Context.start machine.host machine.lastError).calls = [] := rfl
    show action.run.exec logging (_, machine.slots) = _
    rw [runs, Effect.exec_bind, exec_resolve found]
    cases result with
    | ok value => simp [StepM.op, exec_ofOp, ran, answerOf, noCalls]
    | error stop => simp [StepM.op, exec_ofOp, ran, answerOf, noCalls]
  cases undone : undoes (answerOf answer result) with
  | true => exact Machine.steps_of_exec_undone (.host action) stepped undone
  | false => exact Machine.steps_of_exec (.host action) stepped undone

/-- Either the place is missing, or the step takes the turn that its operation takes. -/
theorem steps_at_place {machine : Machine} {action : HostAction} {op : UInt64 → Op α}
    {answer : α → Value} (runs : action.run = do
      let address ← place.resolve
      let value ← StepM.op (op address)
      return answer value)
    (ends : ∀ context address, context.host = machine.host → ∃ result host,
      Op.Ends (op address) logging context result host [] ∧
        HostTurn machine.host action (answerOf answer result) host)
    (untouched : ∀ result, undoes result = true →
      HostTurn machine.host action result machine.host) :
    ∃ result host, machine.Steps logging (.host action) result [] host machine.slots ∧
      HostTurn machine.host action result host := by
  cases found : place.address? machine.slots with
  | none =>
      have stepped : (Step.host action).run.exec logging
          (.start machine.host machine.lastError, machine.slots) =
          (.error .noSuchSlot, .start machine.host machine.lastError, machine.slots) := by
        show action.run.exec logging (_, machine.slots) = _
        rw [runs, Effect.exec_bind, exec_resolve_missing found]
      exact ⟨_, _, Machine.steps_of_exec_undone (.host action) stepped rfl, untouched _ rfl⟩
  | some address =>
      obtain ⟨result, host, ended, turn⟩ := ends (.start machine.host machine.lastError) address rfl
      refine ⟨_, _, steps_at_address runs found ended, ?_⟩
      cases undone : undoes (answerOf answer result) with
      | true => exact untouched _ undone
      | false => exact turn

end HostActions

/-- Every action on the host takes one of its listed turns. -/
theorem hostStep_turn (logging : Logging) (machine : Machine) (action : HostAction) :
    ∃ result host, machine.Steps logging (.host action) result [] host machine.slots ∧
      HostTurn machine.host action result host := by
  cases action with
  | plan plan =>
      exact ⟨_, _, Machine.steps_of_exec (.host (.plan plan)) rfl rfl, .planned plan⟩
  | setPageSize size =>
      exact ⟨_, _, Machine.steps_of_exec (.host (.setPageSize size)) rfl rfl, .resized size⟩
  | peek place length =>
      refine steps_at_place rfl (fun context address same => ?_) fun _ _ => .peeked
      exact ⟨_, _, Op.ends_load same address.toNat length.toNat, .peeked⟩
  | call place arguments =>
      refine steps_at_place rfl (fun context address same => ?_) fun _ _ => .called
      obtain ⟨result, ends⟩ := ends_callCode logging context address (arguments.getD 0 0)
        (arguments.getD 1 0)
      rw [same] at ends
      exact ⟨result, machine.host, ends, .called⟩
  | poke place bytes =>
      refine @steps_at_place _ _ place machine (.poke place bytes)
        (fun address => storeBytes address.toNat bytes) (fun _ => .unit) rfl
        (fun context address same => ?_) fun _ _ => .notPoked
      cases written : machine.host.memory.write? address.toNat bytes.length (byteAt bytes) with
      | some memory => exact ⟨_, _, Op.ends_storeBytes same written, .poked written⟩
      | none => exact ⟨_, _, Op.ends_store_fault same written, .notPoked⟩

end ExecMemory
