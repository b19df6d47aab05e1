/-!
# Access to memory

`Perms` is what a page allows. `Flags` is what a caller asks for: a 32-bit word of which the three
lowest bits stand for reading, writing and executing and all others are ignored (`Flags.perms`).
-/

namespace ExecMemory

/-! ## Permissions of a page -/

/-- Read, write and execute permission. -/
structure Perms where
  read : Bool
  write : Bool
  exec : Bool
  deriving DecidableEq

namespace Perms

/-- Fresh memory: code is written into it. -/
def readWrite : Perms := ⟨true, true, false⟩

/-- Finished code: it runs and no longer changes. -/
def readExec : Perms := ⟨true, false, true⟩

/-- A page can be read when it is readable or writable: no page is write-only. -/
def readable (perms : Perms) : Bool := perms.read || perms.write

/-- The host's number for the permissions: read 1, write 2, execute 4. -/
def bits (perms : Perms) : Nat :=
  perms.read.toNat + 2 * perms.write.toNat + 4 * perms.exec.toNat

/-- Three letters, `-` for a missing permission: `rw-`, `r-x`. -/
def text (perms : Perms) : String :=
  String.ofList [if perms.read then 'r' else '-', if perms.write then 'w' else '-',
    if perms.exec then 'x' else '-']

end Perms

/-! ## Requested access -/

/-- The access a caller asks for, as a word of flag bits. -/
structure Flags where
  bits : UInt32
  deriving DecidableEq

namespace Flags

/-- The flag for reading. -/
def read : Flags := ⟨1⟩

/-- The flag for writing. -/
def write : Flags := ⟨2⟩

/-- The flag for executing. -/
def exec : Flags := ⟨4⟩

/-- Reading and writing. -/
def readWrite : Flags := ⟨3⟩

/-- Reading and executing. -/
def readExec : Flags := ⟨5⟩

/-- Whether the two words share a flag. -/
def contains (flags other : Flags) : Bool := (flags.bits &&& other.bits) != 0

/-- The permissions the flags stand for. -/
def perms (flags : Flags) : Perms where
  read := flags.contains read
  write := flags.contains write
  exec := flags.contains exec

/-- Flags are ordered as numbers. -/
instance : Ord Flags where
  compare x y := compare x.bits y.bits

/-- The text that shows the raw flag word. -/
def text (flags : Flags) : String := "MemoryFlags(" ++ toString flags.bits ++ ")"

theorem perms_readWrite : readWrite.perms = .readWrite := by decide

theorem perms_readExec : readExec.perms = .readExec := by decide

end Flags

end ExecMemory
