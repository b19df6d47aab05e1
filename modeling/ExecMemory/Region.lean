import ExecMemory.Code.Execute
import ExecMemory.Mapping

/-!
# Regions

A region owns one mapping and remembers its address, the size it was requested with and what state
it is in. It starts out writable, with all bytes zero; code is written into it; then it is made
executable, once and for all. Freeing or discarding it ends its life.

Operations that change the content check the state first and the arguments second, and only then
touch memory. A region is a value: an operation that changes its state returns the changed region,
and when it stops early the region is what it was.
-/

namespace ExecMemory

/-- Where a region is in its life. -/
inductive RegionState where
  /-- It can be read and written. -/
  | writable
  /-- It can be read and executed. -/
  | executable
  deriving DecidableEq, Ord

/-- The name of a state. -/
def RegionState.text : RegionState → String
  | .writable => "Writable"
  | .executable => "Executable"

/-- An owned mapping. -/
structure Region where
  base : UInt64
  /-- The size it was requested with. -/
  size : UInt64
  state : RegionState
  deriving DecidableEq

namespace Region

/-- The text that shows all fields. -/
def text (region : Region) : String :=
  "JitRegion \x7b ptr: " ++ Text.hex region.base ++ ", size: " ++ toString region.size
    ++ ", state: " ++ region.state.text ++ " \x7d"

/-- The address of the first instruction, once the region is executable. -/
def entry? (region : Region) : Option UInt64 :=
  match region.state with
  | .executable => some region.base
  | .writable => none

/-- Whether the region was requested without any bytes. -/
def isEmpty (region : Region) : Bool := region.size == 0

/-- Stops unless the region is writable. -/
def requireWritable (region : Region) : Op Unit :=
  match region.state with
  | .writable => pure ()
  | .executable => fail .invalidState

/-- Allocates a writable region of at least `size` bytes. -/
def allocate (size : UInt64) : Op Region := do
  return ⟨← Mapping.alloc size, size, .writable⟩

/-- The number of bytes mapped for the region at the page size reported now, or the requested size
if there is no such number. -/
def mappedLength (region : Region) : Op UInt64 := do
  match ← attempt (Mapping.length region.size) with
  | .ok length => return length
  | .error _ => return region.size

/-- Checks that a range lies within `length` bytes. A start or an end behind them is reported before
an end that comes before the start. -/
def checkRange (start stop length : UInt64) : Except Panic Unit :=
  if length < start then .error (.rangeStart start length)
  else if length < stop then .error (.rangeStop stop length)
  else if stop < start then .error (.rangeReversed start stop)
  else .ok ()

/-- A range passes exactly when it is in order and ends within the bytes there are. -/
theorem checkRange_eq_ok_iff {start stop length : UInt64} :
    checkRange start stop length = .ok () ↔ start ≤ stop ∧ stop ≤ length := by
  simp only [checkRange, UInt64.lt_iff_toNat_lt, UInt64.le_iff_toNat_le]
  split
  · simp only [reduceCtorEq, false_iff]
    omega
  · split
    · simp only [reduceCtorEq, false_iff]
      omega
    · split
      · simp only [reduceCtorEq, false_iff]
        omega
      · simp only [true_iff]
        omega

/-- The bytes from offset `start` up to but not including offset `stop`. -/
def read (region : Region) (start stop : UInt64) : Op (List UInt8) := do
  orPanic (checkRange start stop region.size)
  load (region.base.toNat + start.toNat) (stop.toNat - start.toNat)

/-- The number of bytes as a word. Bytes that are too many for one fit in no memory. -/
def byteCount? (bytes : List UInt8) : Option UInt64 :=
  if bytes.length < UInt64.size then some (.ofNat bytes.length) else none

/-- Checks that a range to be copied is as long as the range it is copied to. -/
def checkCopy (source target : UInt64) : Except Panic Unit :=
  if source = target then .ok () else .error (.copyLength source target)

/-- Copies bytes into the region from an offset on. Their end is a sum that may overflow, and the
range up to it may be out of bounds. -/
def write (region : Region) (offset : UInt64) (bytes : List UInt8) : Op Unit := do
  region.requireWritable
  match byteCount? bytes with
  | none => fail .invalidArgument
  | some count =>
    match checkedAdd offset count with
    | none => fail .invalidArgument
    | some stop =>
      match checkRange offset stop region.size with
      | .error _ => fail .invalidArgument
      | .ok () =>
        orPanic (checkCopy count (stop - offset))
        storeBytes (region.base.toNat + offset.toNat) bytes

/-- A range that ends at a sum is within bounds exactly if the sum is. -/
theorem checkRange_checkedAdd {offset count stop size : UInt64}
    (added : checkedAdd offset count = some stop) :
    checkRange offset stop size = .ok () ↔ offset.toNat + count.toNat ≤ size.toNat := by
  rw [checkRange_eq_ok_iff, UInt64.le_iff_toNat_le, UInt64.le_iff_toNat_le,
    toNat_of_checkedAdd added]
  omega

/-- The checks of a write amount to one comparison of numbers. The copy is made exactly where the
bytes fit, and then its two ranges are equally long. -/
theorem write_eq (region : Region) (offset : UInt64) (bytes : List UInt8) :
    region.write offset bytes = (do
      region.requireWritable
      if offset.toNat + bytes.length ≤ region.size.toNat then
        storeBytes (region.base.toNat + offset.toNat) bytes
      else fail .invalidArgument) := by
  have bound := region.size.toNat_lt_size
  unfold write byteCount?
  apply bind_congr
  intro _
  by_cases countable : bytes.length < UInt64.size
  · have count : (UInt64.ofNat bytes.length).toNat = bytes.length :=
      UInt64.toNat_ofNat_of_lt' countable
    simp only [if_pos countable]
    cases added : checkedAdd offset (.ofNat bytes.length) with
    | none =>
        have large := checkedAdd_eq_none_iff.mp added
        rw [if_neg (by omega)]
    | some stop =>
        have within := @checkRange_checkedAdd _ _ _ region.size added
        rw [count] at within
        cases range : checkRange offset stop region.size with
        | error panic =>
            have outside : ¬ offset.toNat + bytes.length ≤ region.size.toNat := by
              rw [← within, range]
              nofun
            simp only [range, if_neg outside]
        | ok _ =>
            have copies : checkCopy (.ofNat bytes.length) (stop - offset) = .ok () :=
              if_pos (sub_of_checkedAdd added).symm
            simp only [range, copies, if_pos (within.mp range)]
            rfl
  · simp only [if_neg countable]
    rw [if_neg (by omega)]

/-- Sets every byte of the region. -/
def fill (region : Region) (value : UInt8) : Op Unit := do
  region.requireWritable
  store region.base.toNat region.size.toNat fun _ => value

/-- Makes the region executable. -/
def makeExecutable (region : Region) : Op Region := do
  region.requireWritable
  Mapping.makeExecutable region.base region.size
  return { region with state := .executable }

/-- Ends the region and reports whether the host took the memory back. -/
def free (region : Region) : Op Unit := Mapping.release region.base region.size

/-- Ends the region without a report: a refusal is only logged. -/
def discard (region : Region) : Op Unit := do
  match ← attempt region.free with
  | .ok () => return
  | .error error => emit (.notReleased region.base error)

/-- An executable region that holds `code`. When it cannot be finished, the region is discarded. -/
def ofCode (code : List UInt8) : Op Region := do
  let region ← allocate (.ofNat code.length)
  let finish := do
    region.write 0 code
    region.makeExecutable
  match ← attempt finish with
  | .ok executable => return executable
  | .error error =>
    region.discard
    fail error

end Region

/-- Calls the code at an address with two arguments; the result register starts at zero. -/
def callCode (address : UInt64) (x y : Int32) : Op Int32 := do
  match execute (← get).host.memory.fetch? x y address.toNat 0 with
  | some result => return result
  | none => throw .fault

end ExecMemory
