import ExecMemory.Errno

/-!
# Errors

An `Error` says why a request could not be met. Four kinds come from a refused host call and carry
its number; the other three are found without asking the host.
-/

namespace ExecMemory

/-- Why a request could not be met. -/
inductive Error where
  /-- The host did not provide the memory. -/
  | outOfMemory (errno : Errno)
  /-- The range is not memory the host knows about. -/
  | invalidRegion (errno : Errno)
  /-- The host does not allow this change of access. -/
  | unsupportedTransition (errno : Errno)
  /-- The instruction cache could not be brought up to date. -/
  | cacheFlush (errno : Errno)
  /-- The size has no rounding to whole pages. -/
  | tooLarge
  /-- The region is in the wrong state. -/
  | invalidState
  /-- An argument does not fit the region. -/
  | invalidArgument
  deriving DecidableEq

namespace Error

/-- The number the error carries, if it came from the host. -/
def errno? : Error → Option Errno
  | .outOfMemory errno | .invalidRegion errno | .unsupportedTransition errno
  | .cacheFlush errno => some errno
  | .tooLarge | .invalidState | .invalidArgument => none

/-- The name of the kind of error. -/
def kind : Error → String
  | .outOfMemory _ => "OutOfMemory"
  | .invalidRegion _ => "InvalidRegion"
  | .unsupportedTransition _ => "UnsupportedTransition"
  | .cacheFlush _ => "CacheFlush"
  | .tooLarge => "TooLarge"
  | .invalidState => "InvalidState"
  | .invalidArgument => "InvalidArgument"

/-- The text of the error in a message. -/
def message : Error → String
  | .outOfMemory errno => "out of memory: " ++ errno.message
  | .invalidRegion errno => "invalid region: " ++ errno.message
  | .unsupportedTransition errno => "writable to executable transition refused: " ++ errno.message
  | .cacheFlush errno => "instruction cache flush failed: " ++ errno.message
  | .tooLarge => "requested size is too large"
  | .invalidState => "invalid region state"
  | .invalidArgument => "invalid argument"

/-- The text that shows the kind and, where there is one, the number. -/
def debugText (error : Error) : String :=
  match error.errno? with
  | some errno => error.kind ++ "(" ++ errno.debugText ++ ")"
  | none => error.kind

end Error

end ExecMemory
