import ExecMemory.Proofs.Rounding
import Mathlib.Algebra.Order.Floor.Div
import Mathlib.Order.Bounds.Basic

/-!
# Rounding and multiples of the page size

The masks of `Rounding` amount to a quotient (`roundUpToPage_eq`, `mappingLength_eq`). Here that
quotient is compared with what rounding is meant to give, numbers that know nothing of words and
masks.

* The rounded size is the size divided by the page size, rounded up, in pages
  (`leastMultiple_eq_ceilDiv`).
* The length of a mapping is the least positive multiple of the page size that covers the size
  (`isLeast_mapped`).
* Both are given wherever they fit in a word, and nowhere else (`rounding_is_exact`).
-/

namespace ExecMemory

theorem leastMultiple_eq_ceilDiv (size : Nat) {page : Nat} (positive : 0 < page) :
    leastMultiple size page = size ⌈/⌉ page * page := by
  rw [Nat.ceilDiv_eq_add_pred_div, Nat.add_sub_assoc positive]
  rfl

theorem dvd_leastMultiple (size page : Nat) : page ∣ leastMultiple size page :=
  Nat.dvd_mul_left _ _

/-- No smaller multiple covers the size. -/
theorem leastMultiple_le_of_dvd {size page n : Nat} (positive : 0 < page) (divides : page ∣ n)
    (covers : size ≤ n) : leastMultiple size page ≤ n := by
  obtain ⟨pages, rfl⟩ := divides
  rw [leastMultiple_eq_ceilDiv size positive, Nat.mul_comm page]
  exact Nat.mul_le_mul_right page ((ceilDiv_le_iff_le_mul positive).mpr covers)

/-- A mapping has the least number of bytes that makes up whole pages, at least one of them, and
covers the size. -/
theorem isLeast_mapped (size : Nat) {page : Nat} (positive : 0 < page) :
    IsLeast {n | 0 < n ∧ page ∣ n ∧ size ≤ n} (max (leastMultiple size page) page) := by
  have covers := le_leastMultiple size positive
  constructor
  · refine ⟨by omega, ?_, by omega⟩
    rcases Nat.le_total (leastMultiple size page) page with small | small
    · rw [Nat.max_eq_right small]
    · rw [Nat.max_eq_left small]
      exact dvd_leastMultiple size page
  · rintro n ⟨nonempty, divides, enough⟩
    exact Nat.max_le.mpr ⟨leastMultiple_le_of_dvd positive divides enough,
      Nat.le_of_dvd nonempty divides⟩

/-! ## The operations as numbers -/

theorem toNat_roundUpToPage (size : UInt64) {page : UInt64} (power : page.toNat.isPowerOfTwo) :
    (roundUpToPage size page).map (·.map UInt64.toNat) =
      .ok (if leastMultiple size.toNat page.toNat < UInt64.size
        then some (leastMultiple size.toNat page.toNat) else none) := by
  rw [roundUpToPage_eq power]
  by_cases fits : leastMultiple size.toNat page.toNat < UInt64.size
  · simp only [if_pos fits]
    show Except.ok (some (UInt64.ofNat _).toNat) = _
    rw [UInt64.toNat_ofNat_of_lt' fits]
  · simp only [if_neg fits]
    rfl

theorem toNat_mappingLength (size : UInt64) {page : UInt64} (power : page.toNat.isPowerOfTwo) :
    (mappingLength size page).map (·.map UInt64.toNat) =
      .ok (if max (leastMultiple size.toNat page.toNat) page.toNat < UInt64.size
        then some (max (leastMultiple size.toNat page.toNat) page.toNat) else none) := by
  -- the page size is a word, so only the multiple can be too large
  have inWord : max (leastMultiple size.toNat page.toNat) page.toNat < UInt64.size ↔
      leastMultiple size.toNat page.toNat < UInt64.size := by
    have := page.toNat_lt_size
    omega
  rw [mappingLength_eq size power]
  by_cases fits : leastMultiple size.toNat page.toNat < UInt64.size
  · simp only [if_pos fits, if_pos (inWord.mpr fits)]
    show Except.ok (some (mappedBytes size page).toNat) = _
    rw [toNat_mappedBytes fits]
  · simp only [if_neg fits, if_neg (mt inWord.mp fits)]
    rfl

/-- The sizes up to a page, none included, have the length of one page, and no others have. -/
theorem mappingLength_eq_page_iff {size page : UInt64} (power : page.toNat.isPowerOfTwo) :
    mappingLength size page = .ok (some page) ↔ size.toNat ≤ page.toNat := by
  constructor
  · intro rounds
    exact (mappingLength_eq_some power rounds).2
  · intro small
    have onePage : leastMultiple size.toNat page.toNat ≤ page.toNat :=
      leastMultiple_le_of_dvd (pos_of_isPowerOfTwo power) (Nat.dvd_refl _) small
    have fits : leastMultiple size.toNat page.toNat < UInt64.size :=
      Nat.lt_of_le_of_lt onePage page.toNat_lt
    have same : mappedBytes size page = page := by
      apply UInt64.toNat_inj.mp
      rw [toNat_mappedBytes fits, Nat.max_eq_right onePage]
    rw [mappingLength_eq size power, if_pos fits, same]

/-- **Rounding is exact up to the top of the address space.** For every size and every page size
that is a power of two:

* rounding up gives the number of pages, rounded up, times the page size, wherever that fits in a
  word, and nothing elsewhere: the test for overflow rejects a size exactly when the rounded value
  does not fit;
* the length of a mapping is the least positive multiple of the page size that is at least the size,
  wherever that fits in a word, and there is none elsewhere. -/
theorem rounding_is_exact (size : UInt64) {page : UInt64} (power : page.toNat.isPowerOfTwo) :
    let rounded := size.toNat ⌈/⌉ page.toNat * page.toNat
    (roundUpToPage size page).map (·.map UInt64.toNat) =
      .ok (if rounded < UInt64.size then some rounded else none) ∧
    (checkedAdd size (page - 1) = none ↔ UInt64.size ≤ rounded) ∧
    ∃ least, IsLeast {n | 0 < n ∧ page.toNat ∣ n ∧ size.toNat ≤ n} least ∧
      (mappingLength size page).map (·.map UInt64.toNat) =
        .ok (if least < UInt64.size then some least else none) := by
  intro rounded
  have positive := pos_of_isPowerOfTwo power
  have least : rounded = leastMultiple size.toNat page.toNat :=
    (leastMultiple_eq_ceilDiv size.toNat positive).symm
  rw [least]
  refine ⟨toNat_roundUpToPage size power, ?_, _, isLeast_mapped size.toNat positive,
    toNat_mappingLength size power⟩
  have together := add_lt_iff_leastMultiple_lt size.toNat power page.toNat_lt
  rw [checkedAdd_eq_none_iff, toNat_sub_one positive, ← Nat.not_lt, together, Nat.not_lt]

/-- At the top: the last size that can be rounded to small pages, the first one that cannot, and the
largest page size of all with no byte asked for. -/
theorem rounding_is_exact_top :
    (roundUpToPage 0xfffffffffffff000 4096).map (·.map UInt64.toNat) = .ok (some (2 ^ 64 - 4096)) ∧
    (roundUpToPage 0xfffffffffffff001 4096).map (·.map UInt64.toNat) = .ok none ∧
    ∃ least, IsLeast {n | 0 < n ∧ 2 ^ 63 ∣ n ∧ 0 ≤ n} least ∧
      (mappingLength 0 0x8000000000000000).map (·.map UInt64.toNat) =
        .ok (if least < UInt64.size then some least else none) := by
  have small : (4096 : UInt64).toNat.isPowerOfTwo := ⟨12, rfl⟩
  have large : (0x8000000000000000 : UInt64).toNat.isPowerOfTwo := ⟨63, rfl⟩
  refine ⟨?_, ?_, (rounding_is_exact 0 large).2.2⟩
  · rw [(rounding_is_exact 0xfffffffffffff000 small).1]
    decide
  · rw [(rounding_is_exact 0xfffffffffffff001 small).1]
    decide

end ExecMemory
