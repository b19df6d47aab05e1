import ExecMemory.Region

/-!
# Slots

A script keeps what it has allocated in numbered slots: the address of a mapping, or a region. A
slot number holds at most one thing, and `get?` is the view that says which.
-/

namespace ExecMemory

/-- A slot number. -/
abbrev SlotId := Int

/-- What a slot holds. -/
inductive Slot where
  /-- The address of a mapping that the script itself keeps track of. -/
  | raw (address : UInt64)
  | region (held : Region)
  deriving DecidableEq

/-- The address of what the slot holds. -/
def Slot.base : Slot → UInt64
  | .raw address => address
  | .region held => held.base

/-- The filled slots, each under its number. -/
structure Slots where
  entries : List (SlotId × Slot)

namespace Slots

/-- No slot is filled. -/
def empty : Slots := ⟨[]⟩

/-- What a slot holds. -/
def get? (slots : Slots) (id : SlotId) : Option Slot := slots.entries.lookup id

/-- Empties a slot. -/
def erase (slots : Slots) (id : SlotId) : Slots :=
  ⟨slots.entries.filter fun entry => entry.1 != id⟩

/-- Fills a slot, in place of what it held. -/
def insert (slots : Slots) (id : SlotId) (slot : Slot) : Slots :=
  ⟨(id, slot) :: (slots.erase id).entries⟩

/-- The regions that slots hold. -/
def regions (slots : Slots) : List Region :=
  slots.entries.filterMap fun
    | (_, .region region) => some region
    | (_, .raw _) => none

@[simp]
theorem get?_empty (id : SlotId) : empty.get? id = none := rfl

/-- Erasing changes exactly one slot. -/
theorem get?_erase (slots : Slots) (id other : SlotId) :
    (slots.erase id).get? other = if other = id then none else slots.get? other := by
  obtain ⟨entries⟩ := slots
  simp only [get?, erase]
  induction entries with
  | nil => simp
  | cons entry rest ih =>
    obtain ⟨key, slot⟩ := entry
    by_cases erased : key = id
    · rw [List.filter_cons_of_neg (by simp [erased]), ih]
      by_cases same : other = id
      · simp [same]
      · simp [List.lookup_cons, erased, same, beq_false_of_ne same]
    · rw [List.filter_cons_of_pos (by simpa using erased), List.lookup_cons, ih]
      by_cases same : other = key
      · simp [same, erased]
      · simp [List.lookup_cons, beq_false_of_ne same]

/-- Inserting changes exactly one slot. -/
theorem get?_insert (slots : Slots) (id other : SlotId) (slot : Slot) :
    (slots.insert id slot).get? other = if other = id then some slot else slots.get? other := by
  by_cases same : other = id
  · simp [insert, get?, same]
  · have erased := get?_erase slots id other
    rw [if_neg same] at erased ⊢
    rw [← erased]
    simp [insert, get?, List.lookup_cons, beq_false_of_ne same]

end Slots

end ExecMemory
