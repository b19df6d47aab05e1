import ExecMemory.Code.Instr

/-!
# Running machine code

Code is run as a function of two 32-bit arguments with a 32-bit result. Instructions are taken one
after the other from a source of executable bytes until one of them returns. There are no jumps, so
the address only grows and every run ends: at a return, at bytes that are no instruction, or at an
address whose byte cannot be executed.
-/

namespace ExecMemory

/-- Runs the code at `address` with arguments `x` and `y` and the given result so far. There is no
answer if the run reaches something that is not an executable instruction. -/
def execute (byte? : Nat → Option UInt8) (x y : Int32) (address : Nat) (result : Int32) :
    Option Int32 :=
  if address < UInt64.size then
    match decodeAt byte? address with
    | none => none
    | some .ret => some result
    | some instr => execute byte? x y (address + instr.size) (instr.apply x y result)
  else none
termination_by UInt64.size - address
decreasing_by
  have := instr.size_pos
  omega

/-- A return ends the run with the result so far. -/
theorem execute_ret {byte? : Nat → Option UInt8} {x y result : Int32} {address : Nat}
    (inside : address < UInt64.size) (decoded : decodeAt byte? address = some .ret) :
    execute byte? x y address result = some result := by
  rw [execute, if_pos inside, decoded]

/-- Any other instruction acts on the result and passes on to the next one. -/
theorem execute_step {byte? : Nat → Option UInt8} {x y result : Int32} {address : Nat}
    {instr : Instr} (inside : address < UInt64.size) (decoded : decodeAt byte? address = some instr)
    (goesOn : instr ≠ .ret) :
    execute byte? x y address result =
      execute byte? x y (address + instr.size) (instr.apply x y result) := by
  rw [execute, if_pos inside, decoded]
  cases instr with
  | ret => exact absurd rfl goesOn
  | nop | load _ | add => rfl

/-- A run that meets no instruction has no answer. -/
theorem execute_none {byte? : Nat → Option UInt8} {x y result : Int32} {address : Nat}
    (decoded : decodeAt byte? address = none) :
    execute byte? x y address result = none := by
  rw [execute, decoded]
  split <;> rfl

end ExecMemory
