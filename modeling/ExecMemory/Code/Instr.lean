/-!
# Machine instructions

The instructions that the host's processor is asked to run: enough for a function of two 32-bit
arguments that returns a constant or their sum. `Instr.encode` gives the bytes of an instruction and
`decodeAt` finds the instruction at an address from a source of bytes.
-/

namespace ExecMemory

/-- A machine instruction. -/
inductive Instr where
  /-- Does nothing. -/
  | nop
  /-- Sets the result to a constant. -/
  | load (value : Int32)
  /-- Sets the result to the sum of the arguments. -/
  | add
  /-- Returns the result to the caller. -/
  | ret
  deriving DecidableEq

namespace Instr

/-- The bytes of a 32-bit value, lowest first. -/
def immediate (value : Int32) : List UInt8 :=
  let bits := value.toUInt32
  [bits.toUInt8, (bits >>> 8).toUInt8, (bits >>> 16).toUInt8, (bits >>> 24).toUInt8]

/-- The 32-bit value of four bytes, lowest first. -/
def ofImmediate (b₀ b₁ b₂ b₃ : UInt8) : Int32 :=
  (b₀.toUInt32 ||| b₁.toUInt32 <<< 8 ||| b₂.toUInt32 <<< 16 ||| b₃.toUInt32 <<< 24).toInt32

/-- The bytes of an instruction. -/
def encode : Instr → List UInt8
  | .nop => [0x90]
  | .load value => 0xb8 :: immediate value
  | .add => [0x8d, 0x04, 0x37]
  | .ret => [0xc3]

/-- The number of bytes of an instruction. -/
def size : Instr → Nat
  | .nop | .ret => 1
  | .load _ => 5
  | .add => 3

/-- The result after an instruction that is not a return, from the arguments and the result so
far. -/
def apply (x y : Int32) (instr : Instr) (result : Int32) : Int32 :=
  match instr with
  | .load value => value
  | .add => x + y
  | .nop | .ret => result

@[simp]
theorem length_encode (instr : Instr) : instr.encode.length = instr.size := by
  cases instr <;> rfl

theorem size_pos (instr : Instr) : 0 < instr.size := by
  cases instr <;> simp [size]

end Instr

/-- The instruction at an address, if the bytes there are available and make one. -/
def decodeAt (byte? : Nat → Option UInt8) (address : Nat) : Option Instr := do
  match ← byte? address with
  | 0x90 => return .nop
  | 0xb8 =>
    let b₀ ← byte? (address + 1)
    let b₁ ← byte? (address + 2)
    let b₂ ← byte? (address + 3)
    let b₃ ← byte? (address + 4)
    return .load (Instr.ofImmediate b₀ b₁ b₂ b₃)
  | 0x8d =>
    match ← byte? (address + 1), ← byte? (address + 2) with
    | 0x04, 0x37 => return .add
    | _, _ => none
  | 0xc3 => return .ret
  | _ => none

/-- The bytes of a sequence of instructions. -/
def encodeAll (program : List Instr) : List UInt8 := program.flatMap Instr.encode

end ExecMemory
