import ExecMemory.Mapping

/-!
# The C interface

The operations on mappings for callers that know no error values: failure is a null address or `-1`,
and the reason is the thread's last error.
-/

namespace ExecMemory.CInterface

/-- The page size the host reports. -/
def pageSize : Op UInt64 := ExecMemory.pageSize

/-- The address of a new mapping, or null. -/
def alloc (size : UInt64) : Op UInt64 := do
  match ← attempt (Mapping.alloc size) with
  | .ok address => return address
  | .error _ => return 0

/-- Zero for success and `-1` for failure. -/
def status (op : Op Unit) : Op Int32 := do
  match ← attempt op with
  | .ok () => return 0
  | .error _ => return -1

/-- Makes a mapping executable. -/
def makeExecutable (address size : UInt64) : Op Int32 :=
  status (Mapping.makeExecutable address size)

/-- Gives a mapping back. -/
def free (address size : UInt64) : Op Int32 :=
  status (Mapping.release address size)

/-- The thread's last error. -/
def errno : Op Int32 := do
  return (← lastError).code

end ExecMemory.CInterface
