import ExecMemory.Code.Execute
import Mathlib.Data.List.Basic

/-!
# Running encoded programs

A program is a sequence of instructions that ends in a return. Its bytes are taken one after the
other from a source of bytes, and nothing but their order says where an instruction begins.

* `decodeAt_encode`: where the bytes of an instruction stand, that instruction is decoded, whatever
  its immediate looks like.
* `execute_encodeAll`: running the bytes of a program gives the value of the last instruction that
  sets the result (`lastSet?`).
-/

namespace ExecMemory

/-! ## Bytes in a row -/

/-- From `address` on, the source has these bytes. -/
def Reads (byte? : Nat → Option UInt8) (address : Nat) (bytes : List UInt8) : Prop :=
  ∀ i byte, bytes[i]? = some byte → byte? (address + i) = some byte

namespace Reads

variable {byte? : Nat → Option UInt8} {address : Nat} {front back bytes : List UInt8} {byte : UInt8}

theorem head (reads : Reads byte? address (byte :: bytes)) : byte? address = some byte :=
  reads 0 byte rfl

theorem tail (reads : Reads byte? address (byte :: bytes)) : Reads byte? (address + 1) bytes := by
  intro i other found
  rw [Nat.add_assoc, Nat.add_comm 1]
  exact reads (i + 1) other found

theorem left (reads : Reads byte? address (front ++ back)) : Reads byte? address front := by
  intro i byte found
  refine reads i byte ?_
  rw [List.getElem?_append_left (List.getElem?_eq_some_iff.mp found).1]
  exact found

theorem right (reads : Reads byte? address (front ++ back)) :
    Reads byte? (address + front.length) back := by
  intro i byte found
  rw [Nat.add_assoc]
  refine reads (front.length + i) byte ?_
  rw [List.getElem?_append_right (Nat.le_add_right _ _), Nat.add_sub_cancel_left]
  exact found

end Reads

/-! ## Decoding -/

namespace Instr

/-- The four bytes of a value give the value back. -/
theorem ofImmediate_bytes (value : Int32) :
    let bits := value.toUInt32
    ofImmediate bits.toUInt8 (bits >>> 8).toUInt8 (bits >>> 16).toUInt8 (bits >>> 24).toUInt8 =
      value := by
  intro bits
  unfold ofImmediate
  rw [← Int32.toInt32_toUInt32 value]
  apply congrArg
  apply UInt32.toBitVec_inj.mp
  apply BitVec.eq_of_getLsbD_eq
  intro i inWord
  simp only [UInt32.toBitVec_or, UInt32.toBitVec_shiftLeft, UInt8.toBitVec_toUInt32,
    BitVec.getLsbD_or]
  simp only [UInt32.toBitVec_toUInt8, UInt32.toBitVec_shiftRight, UInt32.toBitVec_ofNat,
    BitVec.shiftLeft_eq', BitVec.ushiftRight_eq', BitVec.getLsbD_shiftLeft, BitVec.getLsbD_setWidth,
    BitVec.getLsbD_ushiftRight]
  have eight : (8#32 % 32).toNat = 8 := rfl
  have sixteen : (16#32 % 32).toNat = 16 := rfl
  have twentyFour : (24#32 % 32).toNat = 24 := rfl
  rw [eight, sixteen, twentyFour]
  show _ = bits.toBitVec.getLsbD i
  -- the bit comes from one of the four bytes, the other three are zero there
  by_cases first : i < 8
  · simp [first, inWord, (by omega : i < 16), (by omega : i < 24)]
  · by_cases second : i < 16
    · have inside : 8 + (i - 8) = i ∧ i - 8 < 8 ∧ i - 8 < 32 ∧ i < 24 := by omega
      simp only [first, second, inWord, inside]
      simp
    · by_cases third : i < 24
      · have inside : ¬ i - 8 < 8 ∧ 16 + (i - 16) = i ∧ i - 16 < 8 ∧ i - 16 < 32 := by omega
        simp only [first, second, third, inWord, inside]
        simp
      · have inside : ¬ i - 8 < 8 ∧ ¬ i - 16 < 8 ∧ 24 + (i - 24) = i ∧ i - 24 < 8 ∧
            i - 24 < 32 := by
          omega
        simp only [first, second, third, inWord, inside]
        simp

/-- The value that the instruction sets the result to, if it sets it. -/
def sets? (x y : Int32) : Instr → Option Int32
  | .load value => some value
  | .add => some (x + y)
  | .nop | .ret => none

theorem apply_eq (x y : Int32) (instr : Instr) (result : Int32) :
    instr.apply x y result = (instr.sets? x y).getD result := by
  cases instr <;> rfl

end Instr

/-- An instruction is decoded where its bytes stand. -/
theorem decodeAt_encode {byte? : Nat → Option UInt8} {address : Nat} {instr : Instr}
    (reads : Reads byte? address instr.encode) : decodeAt byte? address = some instr := by
  cases instr with
  | nop => simp [decodeAt, reads.head]
  | ret => simp [decodeAt, reads.head]
  | add =>
      have second := reads.tail.head
      have third := reads.tail.tail.head
      simp [decodeAt, reads.head, second, third]
  | load value =>
      have b₀ := reads.tail.head
      have b₁ := reads.tail.tail.head
      have b₂ := reads.tail.tail.tail.head
      have b₃ := reads.tail.tail.tail.tail.head
      have bytes := Instr.ofImmediate_bytes value
      simp [decodeAt, reads.head, b₀, b₁, b₂, b₃, bytes]

/-! ## Running -/

/-- The value that the last instruction sets which sets any. -/
def lastSet? (x y : Int32) (program : List Instr) : Option Int32 :=
  (program.filterMap (Instr.sets? x y)).getLast?

/-- The first instruction counts only if no later one sets the result. -/
theorem lastSet?_cons (x y : Int32) (instr : Instr) (later : List Instr) (result : Int32) :
    (lastSet? x y (instr :: later)).getD result =
      (lastSet? x y later).getD (instr.apply x y result) := by
  rw [Instr.apply_eq]
  unfold lastSet?
  rw [List.filterMap_cons]
  cases instr.sets? x y with
  | none => rfl
  | some value => simp [List.getLast?_cons]

theorem encodeAll_append (front back : List Instr) :
    encodeAll (front ++ back) = encodeAll front ++ encodeAll back :=
  List.flatMap_append

/-- **Running the bytes of a program** gives what its last instruction sets the result to that sets
it. -/
theorem execute_encodeAll {byte? : Nat → Option UInt8} {x y : Int32} {program : List Instr}
    {address : Nat} (straight : .ret ∉ program)
    (reads : Reads byte? address (encodeAll (program ++ [.ret])))
    (inside : address + (encodeAll (program ++ [.ret])).length ≤ UInt64.size) (result : Int32) :
    execute byte? x y address result = some ((lastSet? x y program).getD result) := by
  induction program generalizing address result with
  | nil =>
      have decoded := @decodeAt_encode byte? address .ret reads
      exact execute_ret inside decoded
  | cons instr later ih =>
      rw [List.mem_cons, not_or] at straight
      obtain ⟨notRet, straightLater⟩ := straight
      have split : encodeAll (instr :: later ++ [.ret]) =
          instr.encode ++ encodeAll (later ++ [.ret]) := rfl
      rw [split] at reads inside
      have rest := reads.right
      rw [List.length_append, ← Nat.add_assoc] at inside
      rw [Instr.length_encode] at rest inside
      have here : address < UInt64.size := by
        have := instr.size_pos
        omega
      rw [execute_step here (decodeAt_encode reads.left) (Ne.symm notRet),
        ih straightLater rest inside, lastSet?_cons]

end ExecMemory
