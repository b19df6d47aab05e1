import ExecMemory.Error
import ExecMemory.Host.Request

/-!
# Log records

The library tells what it does in log records. A record says what happened; its severity, its source
and its wording follow from that. Records less severe than the configured level are not produced at
all. A logger may overwrite the thread's last error while it handles a record (`Logging.clobber`).
-/

namespace ExecMemory

/-- How severe a record is, most severe first. -/
inductive Level where
  | error
  | warn
  | info
  | debug
  | trace
  deriving DecidableEq

namespace Level

/-- Zero for the most severe level. -/
def rank : Level → Nat
  | .error => 0
  | .warn => 1
  | .info => 2
  | .debug => 3
  | .trace => 4

/-- The name of a level in a record. -/
def text : Level → String
  | .error => "ERROR"
  | .warn => "WARN"
  | .info => "INFO"
  | .debug => "DEBUG"
  | .trace => "TRACE"

/-- The least severe level that is shown, by its name in a setting; `off` shows nothing. -/
def ofSetting? : String → Option (Option Level)
  | "off" => some none
  | "error" => some (some .error)
  | "warn" => some (some .warn)
  | "info" => some (some .info)
  | "debug" => some (some .debug)
  | "trace" => some (some .trace)
  | _ => none

end Level

/-- One thing worth telling. -/
inductive Record where
  /-- Fresh memory was mapped. -/
  | mapped (length address : UInt64)
  /-- The access to a range was changed. -/
  | reprotected (length address : UInt64) (flags : Flags)
  /-- A range was taken back. -/
  | unmapped (length address : UInt64)
  /-- The host refused a request. -/
  | refused (kind : CallKind) (length address : UInt64) (errno : Errno)
  /-- A size has no rounding to whole pages. -/
  | cannotRound (size : UInt64)
  /-- A discarded region could not be given back. -/
  | notReleased (address : UInt64) (error : Error)
  /-- A named piece of code could not be made into a region. -/
  | notCompiled (name : String) (error : Error)
  deriving DecidableEq

namespace Record

/-- Successes are for tracing and refusals for debugging; what the caller cannot see otherwise is a
warning or an error. -/
def level : Record → Level
  | .mapped .. | .reprotected .. | .unmapped .. => .trace
  | .refused .. | .cannotRound _ => .debug
  | .notReleased .. => .warn
  | .notCompiled .. => .error

/-- The part of the program a record comes from. -/
def target : Record → String
  | .mapped .. | .reprotected .. | .unmapped .. | .refused .. | .cannotRound _ =>
    "jit_shim::virtual_memory"
  | .notReleased .. => "jit_shim::region"
  | .notCompiled .. => "jit_shim"

/-- A number of bytes and where they are. -/
def rangeText (length address : UInt64) : String :=
  Text.hex length ++ " bytes at " ++ Text.hex address

/-- The wording of a record. -/
def message : Record → String
  | .mapped length address => "mapped " ++ rangeText length address
  | .reprotected length address flags =>
    "protected " ++ rangeText length address ++ " as " ++ flags.text
  | .unmapped length address => "unmapped " ++ rangeText length address
  | .refused kind length address errno =>
    kind.text ++ " of " ++ rangeText length address ++ " failed: " ++ errno.message
  | .cannotRound size => "cannot round " ++ Text.hex size ++ " bytes to whole pages"
  | .notReleased address error =>
    "failed to release JIT region at " ++ Text.hex address ++ ": " ++ error.message
  | .notCompiled name error =>
    let code := match error.errno? with
      | some errno => "Some(" ++ toString errno.code ++ ")"
      | none => "None"
    "failed to JIT " ++ name ++ ": " ++ error.message ++ " (errno = " ++ code ++ ")"

/-- The record as a line: the level in five columns and the source in brackets, then the message. -/
def line (record : Record) : String :=
  let level := record.level.text
  "[" ++ level.pushn ' ' (5 - level.length) ++ " " ++ record.target ++ "] " ++ record.message

end Record

/-- How records are handled. -/
structure Logging where
  /-- The least severe level that is produced; `none` produces nothing. -/
  maxLevel : Option Level := none
  /-- The last error that handling a record leaves behind; `none` leaves it alone. -/
  clobber : Option Errno := none

namespace Logging

/-- Nothing is logged. -/
def silent : Logging := {}

/-- Whether records of a level are produced. -/
def shows (logging : Logging) (level : Level) : Bool :=
  match logging.maxLevel with
  | some maxLevel => level.rank ≤ maxLevel.rank
  | none => false

variable {logging : Logging} {maxLevel : Level}

theorem shows_of_maxLevel (limit : logging.maxLevel = some maxLevel) (level : Level) :
    logging.shows level = decide (level.rank ≤ maxLevel.rank) := by
  rw [shows, limit]

theorem shows_of_off (off : logging.maxLevel = none) (level : Level) :
    logging.shows level = false := by
  rw [shows, off]

/-- No level is less severe than `trace`. -/
theorem shows_of_trace (all : logging.maxLevel = some .trace) (level : Level) :
    logging.shows level = true := by
  rw [shows_of_maxLevel all, decide_eq_true_iff]
  cases level <;> decide

end Logging

end ExecMemory
