import ExecMemory.Script.Slots

/-!
# Steps of a script

A step is either a call of the library, in the script's own thread or in a new one, or an action on
the host behind the library's back. Addresses are given as places: relative to what a slot holds, or
absolute.
-/

namespace ExecMemory

/-- An address as a script names it. -/
inductive Place where
  /-- So many bytes from the base of what a slot holds. -/
  | slot (id : SlotId) (offset : Int)
  | absolute (address : UInt64)
  deriving DecidableEq

/-- Calls on mappings that the script keeps track of. -/
inductive MappingCall where
  | length (size : UInt64)
  | alloc (slot : SlotId) (size : UInt64)
  | protect (place : Place) (size : UInt64) (flags : Flags)
  | makeExecutable (place : Place) (size : UInt64)
  | release (place : Place) (size : UInt64)
  | flushInstructionCache (place : Place) (size : UInt64)
  deriving DecidableEq

/-- Calls of the C interface. -/
inductive CCall where
  | pageSize
  | errno
  | alloc (slot : SlotId) (size : UInt64)
  | makeExecutable (place : Place) (size : UInt64)
  | free (place : Place) (size : UInt64)
  deriving DecidableEq

/-- Calls on the region of one slot. -/
inductive RegionCall where
  /-- Fills the slot with a new region. -/
  | allocate (size : UInt64)
  /-- Fills the slot with a region that holds code. -/
  | ofCode (code : List UInt8)
  | info
  | makeExecutable
  /-- Reads from an offset to another, to the end of the region if that is missing. -/
  | read (start : UInt64) (stop : Option UInt64)
  | write (offset : UInt64) (bytes : List UInt8)
  | fill (value : UInt8)
  | free
  | discard
  /-- Calls the region's code so many bytes behind its entry. -/
  | call (arguments : List Int32) (offset : Int)
  deriving DecidableEq

/-- A call of the library. -/
inductive Call where
  | pageSize
  | lastError
  | setLastError (errno : Errno)
  | mapping (call : MappingCall)
  | c (call : CCall)
  | region (slot : SlotId) (call : RegionCall)
  deriving DecidableEq

/-- An action on the host that the library takes no part in. -/
inductive HostAction where
  /-- Plans a fault. -/
  | plan (plan : Plan)
  /-- Changes the page size the host reports. -/
  | setPageSize (size : UInt64)
  | peek (place : Place) (length : UInt64)
  | poke (place : Place) (bytes : List UInt8)
  /-- Calls the code at a place. -/
  | call (place : Place) (arguments : List Int32)
  deriving DecidableEq

/-- One step of a script. -/
inductive Step where
  /-- A call of the library, `inThread` if it runs in a thread of its own. -/
  | library (call : Call) (inThread : Bool)
  | host (action : HostAction)
  deriving DecidableEq

/-- What a step that was not stopped answers. -/
inductive Value where
  | unit
  | size (size : UInt64)
  | number (number : Int32)
  /-- An address; zero is the null address. -/
  | address (address : UInt64)
  | bytes (bytes : List UInt8)
  /-- A region and the number of bytes mapped for it. -/
  | info (region : Region) (mappedLength : UInt64)
  deriving DecidableEq

end ExecMemory
