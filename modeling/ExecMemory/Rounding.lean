import ExecMemory.Panic

/-!
# Rounding sizes to whole pages

Rounding is done with bit masks, which is exact for powers of two only, so a page size of any other
kind is a panic and never an answer. A size whose rounded value does not fit in a machine word has
no rounding (`none`).

* `alignDown` clears the bits of a word below an alignment.
* `roundUpToPage` is the least multiple of the page size that is at least the size.
* `mappingLength` is the same, but at least one page: a mapping is never empty.
-/

namespace ExecMemory

/-- The sum of two words, or `none` when it needs more than 64 bits. -/
def checkedAdd (x y : UInt64) : Option UInt64 :=
  if x.toNat + y.toNat < UInt64.size then some (x + y) else none

/-- The difference of two words; below zero there is none. -/
def checkedSub (x y : UInt64) : Except Panic UInt64 :=
  if x < y then .error .subtractOverflow else .ok (x - y)

/-- `x` with the bits below `alignment` cleared. The mask is `alignment - 1`, so there is none for a
zero alignment. -/
def alignDown (x alignment : UInt64) : Except Panic UInt64 := do
  let below ← checkedSub alignment 1
  return x &&& ~~~below

/-- `size` rounded up to a multiple of `pageSize`. -/
def roundUpToPage (size pageSize : UInt64) : Except Panic (Option UInt64) :=
  if pageSize.toNat.isPowerOfTwo then do
    let below ← checkedSub pageSize 1
    match checkedAdd size below with
    | none => return none
    | some last => return some (← alignDown last pageSize)
  else .error (.pageSizeNotPowerOfTwo pageSize)

/-- The number of bytes mapped for a request of `size` bytes. -/
def mappingLength (size pageSize : UInt64) : Except Panic (Option UInt64) :=
  (roundUpToPage size pageSize).map (·.map (max · pageSize))

/-! ## When rounding answers and when it panics -/

theorem checkedAdd_eq_some_iff {x y z : UInt64} :
    checkedAdd x y = some z ↔ x.toNat + y.toNat < UInt64.size ∧ x + y = z := by
  rw [checkedAdd, Option.ite_none_right_eq_some, Option.some.injEq]

theorem checkedAdd_eq_none_iff {x y : UInt64} :
    checkedAdd x y = none ↔ UInt64.size ≤ x.toNat + y.toNat := by
  rw [checkedAdd, ite_eq_right_iff, ← Nat.not_lt]
  simp only [reduceCtorEq]

theorem toNat_of_checkedAdd {x y sum : UInt64} (added : checkedAdd x y = some sum) :
    sum.toNat = x.toNat + y.toNat := by
  obtain ⟨small, rfl⟩ := checkedAdd_eq_some_iff.mp added
  rw [UInt64.toNat_add]
  exact Nat.mod_eq_of_lt small

theorem sub_of_checkedAdd {x y sum : UInt64} (added : checkedAdd x y = some sum) : sum - x = y := by
  rw [← (checkedAdd_eq_some_iff.mp added).2, UInt64.add_comm, UInt64.add_sub_cancel]

theorem checkedSub_one {x : UInt64} (nonzero : x ≠ 0) : checkedSub x 1 = .ok (x - 1) := by
  have enough : ¬ x < 1 := by
    rw [UInt64.not_lt, UInt64.le_iff_toNat_le]
    exact UInt64.lt_iff_toNat_lt.mp (UInt64.pos_iff_ne_zero.mpr nonzero)
  exact if_neg enough

theorem alignDown_of_ne_zero {x alignment : UInt64} (nonzero : alignment ≠ 0) :
    alignDown x alignment = .ok (x &&& ~~~(alignment - 1)) := by
  rw [alignDown, checkedSub_one nonzero]
  rfl

theorem ne_zero_of_isPowerOfTwo {page : UInt64} (power : page.toNat.isPowerOfTwo) : page ≠ 0 := by
  rintro rfl
  exact absurd (Nat.pos_of_isPowerOfTwo power) (by decide)

/-- No subtraction goes below zero: a power of two is not zero. -/
theorem roundUpToPage_unchecked (size page : UInt64) :
    roundUpToPage size page =
      if page.toNat.isPowerOfTwo then
        .ok ((checkedAdd size (page - 1)).map fun last => last &&& ~~~(page - 1))
      else .error (.pageSizeNotPowerOfTwo page) := by
  unfold roundUpToPage
  by_cases power : page.toNat.isPowerOfTwo
  · have nonzero := ne_zero_of_isPowerOfTwo power
    rw [if_pos power, if_pos power, checkedSub_one nonzero]
    cases added : checkedAdd size (page - 1) with
    | none => simp [bind, Except.bind, added, pure, Except.pure]
    | some last =>
        simp [bind, Except.bind, added, pure, Except.pure, alignDown_of_ne_zero nonzero]
  · rw [if_neg power, if_neg power]

theorem roundUpToPage_of_not_isPowerOfTwo {size pageSize : UInt64}
    (odd : ¬ pageSize.toNat.isPowerOfTwo) :
    roundUpToPage size pageSize = .error (.pageSizeNotPowerOfTwo pageSize) :=
  if_neg odd

theorem mappingLength_of_not_isPowerOfTwo {size pageSize : UInt64}
    (odd : ¬ pageSize.toNat.isPowerOfTwo) :
    mappingLength size pageSize = .error (.pageSizeNotPowerOfTwo pageSize) := by
  rw [mappingLength, roundUpToPage_of_not_isPowerOfTwo odd]
  rfl

end ExecMemory
