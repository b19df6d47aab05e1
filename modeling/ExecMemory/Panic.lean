import ExecMemory.Text.Hex

/-!
# Panics

A panic reports a broken assumption of the program itself, as opposed to an `Error`, which reports
that a request could not be met. It carries its cause; the wording is in `Panic.message`.
-/

namespace ExecMemory

/-- A broken assumption that ends the running operation. -/
inductive Panic where
  /-- An unsigned subtraction went below zero. -/
  | subtractOverflow
  /-- The host reports a page size that masks cannot round to. -/
  | pageSizeNotPowerOfTwo (pageSize : UInt64)
  /-- A range of bytes starts behind the `length` bytes there are. -/
  | rangeStart (start length : UInt64)
  /-- A range of bytes ends behind the `length` bytes there are. -/
  | rangeStop (stop length : UInt64)
  /-- A range of bytes ends before it starts. -/
  | rangeReversed (start stop : UInt64)
  /-- Bytes are copied between ranges of different lengths. -/
  | copyLength (source target : UInt64)
  deriving DecidableEq

/-- The text a panic is reported with. -/
def Panic.message : Panic → String
  | .subtractOverflow => "attempt to subtract with overflow"
  | .pageSizeNotPowerOfTwo pageSize =>
    "page size " ++ Text.hex pageSize ++ " is not a power of two"
  | .rangeStart start length =>
    "range start index " ++ toString start ++ " out of range for slice of length "
      ++ toString length
  | .rangeStop stop length =>
    "range end index " ++ toString stop ++ " out of range for slice of length " ++ toString length
  | .rangeReversed start stop =>
    "slice index starts at " ++ toString start ++ " but ends at " ++ toString stop
  | .copyLength source target =>
    "copy_from_slice: source slice length (" ++ toString source
      ++ ") does not match destination slice length (" ++ toString target ++ ")"

end ExecMemory
