import ExecMemory.CInterface
import ExecMemory.Script.Step

/-!
# Running steps

A step runs as an operation with access to the slots. It names the slots and places it needs; when a
slot does not hold what the step needs, or a slot to be filled is in use, the step halts before it
does anything. A region that is freed or discarded has left its slot before the host is asked.
-/

namespace ExecMemory

/-- Why a step has no value. -/
inductive Halt where
  /-- The operation stopped. -/
  | stop (stop : Stop)
  /-- The step names a slot that does not hold what it needs. -/
  | noSuchSlot
  /-- The step would fill a slot that already holds something. -/
  | slotInUse
  deriving DecidableEq

/-- A step that runs: an operation with access to the slots. -/
abbrev StepM := Effect (Context × Slots) Halt

namespace StepM

/-- Runs an operation. -/
def op {α : Type} (op : Op α) : StepM α := Effect.ofOp Halt.stop op

/-- What a slot holds. -/
def slot (id : SlotId) : StepM Slot := do
  match (← get).2.get? id with
  | some slot => return slot
  | none => throw .noSuchSlot

/-- The region a slot holds. -/
def region (id : SlotId) : StepM Region := do
  match ← slot id with
  | .region region => return region
  | .raw _ => throw .noSuchSlot

/-- Fills a slot. -/
def put (id : SlotId) (slot : Slot) : StepM Unit :=
  modify fun (context, slots) => (context, slots.insert id slot)

/-- Takes the region out of a slot and leaves the slot empty. -/
def takeRegion (id : SlotId) : StepM Region := do
  let region ← region id
  modify fun (context, slots) => (context, slots.erase id)
  return region

/-- Stops if a slot is in use. -/
def requireEmpty (id : SlotId) : StepM Unit := do
  match (← get).2.get? id with
  | some _ => throw .slotInUse
  | none => return

end StepM

/-- The address of a place. Offsets wrap around at the end of the address space. -/
def Place.resolve : Place → StepM UInt64
  | .slot id offset => do return (← StepM.slot id).base + .ofInt offset
  | .absolute address => return address

/-- Calls code with a list of arguments; a missing argument is zero and a third one is ignored. -/
def callWith (address : UInt64) (arguments : List Int32) : Op Int32 :=
  callCode address (arguments.getD 0 0) (arguments.getD 1 0)

/-! ## What each step does -/

/-- Runs a call on mappings. A new mapping fills its slot once it is there. -/
def MappingCall.run : MappingCall → StepM Value
  | .length size => return .size (← .op (Mapping.length size))
  | .alloc slot size => do
    .requireEmpty slot
    let address ← .op (Mapping.alloc size)
    .put slot (.raw address)
    return .address address
  | .protect place size flags => do
    let address ← place.resolve
    .op (Mapping.protect address size flags)
    return .unit
  | .makeExecutable place size => do
    let address ← place.resolve
    .op (Mapping.makeExecutable address size)
    return .unit
  | .release place size => do
    let address ← place.resolve
    .op (Mapping.release address size)
    return .unit
  | .flushInstructionCache place size => do
    let address ← place.resolve
    .op (Mapping.flushInstructionCache address size)
    return .unit

/-- Runs a call of the C interface. A null address is an answer but fills no slot. -/
def CCall.run : CCall → StepM Value
  | .pageSize => return .size (← .op CInterface.pageSize)
  | .errno => return .number (← .op CInterface.errno)
  | .alloc slot size => do
    .requireEmpty slot
    let address ← .op (CInterface.alloc size)
    if address ≠ 0 then .put slot (.raw address)
    return .address address
  | .makeExecutable place size => do
    let address ← place.resolve
    return .number (← .op (CInterface.makeExecutable address size))
  | .free place size => do
    let address ← place.resolve
    return .number (← .op (CInterface.free address size))

/-- Runs a call on the region of a slot. A new region fills the slot once it is there; a region that
ends has left the slot before. -/
def RegionCall.run (id : SlotId) : RegionCall → StepM Value
  | .allocate size => do
    .requireEmpty id
    let region ← .op (Region.allocate size)
    .put id (.region region)
    return .address region.base
  | .ofCode code => do
    .requireEmpty id
    let region ← .op (Region.ofCode code)
    .put id (.region region)
    return .address region.base
  | .info => do
    let region ← .region id
    return .info region (← .op region.mappedLength)
  | .makeExecutable => do
    let region ← .region id
    .put id (.region (← .op region.makeExecutable))
    return .unit
  | .read start stop => do
    let region ← .region id
    return .bytes (← .op (region.read start (stop.getD region.size)))
  | .write offset bytes => do
    let region ← .region id
    .op (region.write offset bytes)
    return .unit
  | .fill value => do
    let region ← .region id
    .op (region.fill value)
    return .size region.size
  | .free => do
    let region ← .takeRegion id
    .op region.free
    return .unit
  | .discard => do
    let region ← .takeRegion id
    .op region.discard
    return .unit
  | .call arguments offset => do
    let region ← .region id
    match region.entry? with
    | some entry => return .number (← .op (callWith (entry + .ofInt offset) arguments))
    | none => .op (fail .invalidState)

/-- Runs a call of the library. -/
def Call.run : Call → StepM Value
  | .pageSize => return .size (← .op ExecMemory.pageSize)
  | .lastError => return .number (← .op ExecMemory.lastError).code
  | .setLastError errno => do
    .op (ExecMemory.setLastError errno)
    return .unit
  | .mapping call => call.run
  | .c call => call.run
  | .region id call => call.run id

/-- Runs an action on the host. None of them changes the last error. -/
def HostAction.run : HostAction → StepM Value
  | .plan next => do
    modify fun (context, slots) =>
      ({ context with host := { context.host with plans := context.host.plans ++ [next] } }, slots)
    return .unit
  | .setPageSize size => do
    modify fun (context, slots) =>
      ({ context with host := { context.host with pageSize := size } }, slots)
    return .unit
  | .peek place length => do
    let address ← place.resolve
    return .bytes (← .op (load address.toNat length.toNat))
  | .poke place bytes => do
    let address ← place.resolve
    .op (storeBytes address.toNat bytes)
    return .unit
  | .call place arguments => do
    let address ← place.resolve
    return .number (← .op (callWith address arguments))

/-- Runs a step. -/
def Step.run : Step → StepM Value
  | .library call _ => call.run
  | .host action => action.run

/-- Whether the step runs in a thread of its own. Actions on the host never do. -/
def Step.inOwnThread : Step → Bool
  | .library _ inThread => inThread
  | .host _ => false

end ExecMemory
