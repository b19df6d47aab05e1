import ExecMemory.Proofs.PageMultiples
import Mathlib.Order.WithBot

/-!
# Which page sizes round, and how they nest

Rounding takes the page size as it comes from the host. Two questions about it are answered here:
for which numbers the masks of `Rounding` are right at all, and what becomes of a length when the
page size is another one.

* Clearing bits rounds down for powers of two and for nothing else. Under any other alignment it
  goes wrong at the alignment itself (`alignDown_self_iff`), so the guard of `roundUpToPage` lets no
  page size pass that it should stop, and stops none that it should let pass
  (`alignment_guard_is_exact`).
* The length of a size is its least covering by whole pages (`mappingLength_eq_some_iff`). Whole
  coarse pages are whole small pages, so a size and its length have the same coverings by coarse
  pages (`coverings_of_isLeast`), and rounding to small pages first makes no difference
  (`mappingLength_of_dvd`).
-/

namespace ExecMemory

/-! ## Alignments -/

section Alignments

variable {alignment : UInt64}

/-- Clearing bits is rounding down: it takes every word to the last multiple of the alignment before
or at it. -/
def AlignsExactly (alignment : UInt64) : Prop :=
  ∀ x : UInt64, (alignDown x alignment).map UInt64.toNat =
    .ok (x.toNat / alignment.toNat * alignment.toNat)

/-- Whatever the alignment, clearing bits does not lead upwards, and there is nothing left to
clear. -/
theorem alignDown_reduces (nonzero : alignment ≠ 0) (x : UInt64) :
    ∃ down, alignDown x alignment = .ok down ∧ down ≤ x ∧ alignDown down alignment = .ok down := by
  refine ⟨_, alignDown_of_ne_zero nonzero, UInt64.and_le_left, ?_⟩
  rw [alignDown_of_ne_zero nonzero, UInt64.and_assoc, UInt64.and_self]

/-- An alignment is a multiple of itself. The mask leaves it alone only if it has a single bit: of
several bits, all but the lowest are bits of the predecessor too. -/
theorem alignDown_self_iff (nonzero : alignment ≠ 0) :
    alignDown alignment alignment = .ok alignment ↔ alignment.toNat.isPowerOfTwo := by
  have positive : 0 < alignment.toNat :=
    UInt64.lt_iff_toNat_lt.mp (UInt64.pos_iff_ne_zero.mpr nonzero)
  constructor
  · intro own
    rw [alignDown_of_ne_zero nonzero] at own
    have kept : alignment &&& ~~~(alignment - 1) = alignment := Except.ok.inj own
    have shared : alignment &&& (alignment - 1) = 0 :=
      calc alignment &&& (alignment - 1)
          = alignment &&& ~~~(alignment - 1) &&& (alignment - 1) := by rw [kept]
        _ = 0 := by rw [UInt64.and_assoc, UInt64.not_and_self, UInt64.and_zero]
    rw [← Nat.and_sub_one_eq_zero_iff_isPowerOfTwo (by omega), ← toNat_sub_one positive,
      ← UInt64.toNat_and, shared]
    rfl
  · intro power
    rw [alignDown_eq power, Nat.div_self positive, Nat.one_mul, UInt64.ofNat_toNat]

theorem alignsExactly_iff (nonzero : alignment ≠ 0) :
    AlignsExactly alignment ↔ alignment.toNat.isPowerOfTwo := by
  constructor
  · intro exactly
    have positive : 0 < alignment.toNat :=
      UInt64.lt_iff_toNat_lt.mp (UInt64.pos_iff_ne_zero.mpr nonzero)
    obtain ⟨down, aligned, _, _⟩ := alignDown_reduces nonzero alignment
    have value := exactly alignment
    rw [aligned, Nat.div_self positive, Nat.one_mul] at value
    have same : down = alignment := UInt64.toNat_inj.mp (Except.ok.inj value)
    exact (alignDown_self_iff nonzero).mp (same ▸ aligned)
  · intro power x
    rw [alignDown_of_ne_zero nonzero]
    show Except.ok (x &&& ~~~(alignment - 1)).toNat = _
    rw [toNat_and_mask power]

theorem roundUpToPage_answers_iff (size page : UInt64) :
    (∃ rounded, roundUpToPage size page = .ok rounded) ↔ page.toNat.isPowerOfTwo := by
  constructor
  · rintro ⟨rounded, answers⟩
    by_contra odd
    rw [roundUpToPage_of_not_isPowerOfTwo odd] at answers
    cases answers
  · intro power
    exact ⟨_, roundUpToPage_eq power⟩

end Alignments

/-- **The guard is exactly right.** For every alignment but zero:

* clearing bits rounds all words down to multiples of the alignment if and only if the alignment is
  a power of two;
* rounding up to pages of that size answers in just this case and panics in any other, so it never
  uses a mask that is wrong, and never refuses one that is right;
* power of two or not, clearing bits never leads upwards, and to do it again changes nothing. -/
theorem alignment_guard_is_exact {alignment : UInt64} (nonzero : alignment ≠ 0) :
    (AlignsExactly alignment ↔ alignment.toNat.isPowerOfTwo) ∧
    (∀ size, (∃ rounded, roundUpToPage size alignment = .ok rounded) ↔ AlignsExactly alignment) ∧
    ∀ x, ∃ down, alignDown x alignment = .ok down ∧ down ≤ x ∧
      alignDown down alignment = .ok down := by
  have powers := alignsExactly_iff nonzero
  refine ⟨powers, fun size => ?_, alignDown_reduces nonzero⟩
  rw [powers]
  exact roundUpToPage_answers_iff size alignment

/-- The smallest alignment that is no power of two, the largest one of all, and the largest that is
a power of two. -/
theorem alignment_guard_is_exact_extremes :
    ¬ AlignsExactly 3 ∧ ¬ AlignsExactly 0xffffffffffffffff ∧ AlignsExactly 0x8000000000000000 ∧
    (¬ ∃ rounded, roundUpToPage 10 3 = .ok rounded) ∧
    ∃ down, alignDown 7 3 = .ok down ∧ down ≤ 7 ∧ alignDown down 3 = .ok down := by
  obtain ⟨small, guard, reduces⟩ := @alignment_guard_is_exact 3 (by decide)
  have odd : ¬ AlignsExactly 3 := mt small.mp (by decide)
  refine ⟨odd, ?_, ?_, mt (guard 10).mp odd, reduces 7⟩
  · exact mt (@alignment_guard_is_exact 0xffffffffffffffff (by decide)).1.mp (by decide +kernel)
  · exact (@alignment_guard_is_exact 0x8000000000000000 (by decide)).1.mpr ⟨63, rfl⟩

/-! ## Coverings by whole pages -/

/-- The numbers of bytes that make up whole pages, at least one of them, and cover the size. -/
def coverings (size page : Nat) : Set Nat := {n | 0 < n ∧ page ∣ n ∧ size ≤ n}

section Coverings

variable {size page n : Nat}

/-- A larger size has fewer coverings. -/
theorem coverings_subset {larger : Nat} (le : size ≤ larger) :
    coverings larger page ⊆ coverings size page := by
  rintro n ⟨positive, whole, covers⟩
  exact ⟨positive, whole, Nat.le_trans le covers⟩

/-- Coarse pages cover a size exactly if they cover its least covering by small pages. -/
theorem coverings_of_isLeast {coarse length : Nat} (nested : page ∣ coarse)
    (least : IsLeast (coverings size page) length) :
    coverings length coarse = coverings size coarse := by
  apply Set.Subset.antisymm
  · exact coverings_subset least.1.2.2
  · rintro n ⟨positive, whole, covers⟩
    exact ⟨positive, whole, least.2 ⟨positive, Nat.dvd_trans nested whole, covers⟩⟩

/-- A least covering has less than a page to spare. -/
theorem sub_lt_of_isLeast_coverings (nonempty : 0 < size)
    (least : IsLeast (coverings size page) n) :
    n - size < page := by
  obtain ⟨⟨positive, whole, covers⟩, minimal⟩ := least
  have page_pos : 0 < page := Nat.pos_of_dvd_of_pos whole positive
  by_contra spare
  have fewer : n - page ∈ coverings size page :=
    ⟨by omega, Nat.dvd_sub whole (Nat.dvd_refl page), by omega⟩
  have := minimal fewer
  omega

/-- A least covering has nothing to spare exactly if the size makes up whole pages. -/
theorem eq_iff_dvd_of_isLeast_coverings (nonempty : 0 < size)
    (least : IsLeast (coverings size page) n) :
    size = n ↔ page ∣ size := by
  constructor
  · rintro rfl
    exact least.1.2.1
  · intro whole
    exact Nat.le_antisymm least.1.2.2 (least.2 ⟨nonempty, whole, Nat.le_refl size⟩)

end Coverings

theorem dvd_of_isPowerOfTwo_of_le {page coarse : Nat} (power : page.isPowerOfTwo)
    (powerCoarse : coarse.isPowerOfTwo) (finer : page ≤ coarse) : page ∣ coarse := by
  obtain ⟨exponent, rfl⟩ := power
  obtain ⟨exponentCoarse, rfl⟩ := powerCoarse
  exact Nat.pow_dvd_pow 2 ((Nat.pow_le_pow_iff_right (by decide)).mp finer)

/-! ## Lengths -/

section Lengths

variable {page coarse size larger length longer : UInt64}

/-- The length of a size is its least covering by whole pages. -/
theorem mappingLength_eq_some_iff (power : page.toNat.isPowerOfTwo) :
    mappingLength size page = .ok (some length) ↔
      IsLeast (coverings size.toNat page.toNat) length.toNat := by
  have least : IsLeast (coverings size.toNat page.toNat)
      (max (leastMultiple size.toNat page.toNat) page.toNat) :=
    isLeast_mapped size.toNat (pos_of_isPowerOfTwo power)
  rw [mappingLength_eq size power]
  by_cases fits : leastMultiple size.toNat page.toNat < UInt64.size
  · rw [if_pos fits]
    rw [← toNat_mappedBytes fits] at least
    constructor
    · rintro ⟨⟩
      exact least
    · intro other
      rw [UInt64.toNat_inj.mp (least.unique other)]
  · rw [if_neg fits]
    constructor
    · nofun
    · intro other
      have same := least.unique other
      have word := length.toNat_lt_size
      omega

/-- What does not fit in a word for small pages does not for coarse ones. -/
theorem mappingLength_none_of_le (power : page.toNat.isPowerOfTwo)
    (powerCoarse : coarse.toNat.isPowerOfTwo) (finer : page.toNat ≤ coarse.toNat)
    (overflows : mappingLength size page = .ok none) :
    mappingLength size coarse = .ok none := by
  rw [mappingLength_eq_none_iff size power] at overflows
  rw [mappingLength_eq_none_iff size powerCoarse]
  omega

/-- Rounding to small pages and then to coarse pages is rounding to coarse pages. -/
theorem mappingLength_of_dvd (power : page.toNat.isPowerOfTwo)
    (powerCoarse : coarse.toNat.isPowerOfTwo) (nested : page.toNat ∣ coarse.toNat)
    (rounds : mappingLength size page = .ok (some length)) :
    mappingLength length coarse = mappingLength size coarse := by
  have least := (mappingLength_eq_some_iff power).mp rounds
  rcases mappingLength_cases size powerCoarse with overflows | ⟨coarseLength, roundsCoarse⟩
  · have covers : size.toNat ≤ length.toNat := least.1.2.2
    rw [overflows]
    rw [mappingLength_eq_none_iff size powerCoarse] at overflows
    rw [mappingLength_eq_none_iff length powerCoarse]
    omega
  · rw [roundsCoarse, mappingLength_eq_some_iff powerCoarse, coverings_of_isLeast nested least]
    exact (mappingLength_eq_some_iff powerCoarse).mp roundsCoarse

/-- What is less than a size with a length has a length too, and no longer one. -/
theorem mappingLength_mono (power : page.toNat.isPowerOfTwo) (le : size ≤ larger)
    (rounds : mappingLength larger page = .ok (some longer)) :
    ∃ length, mappingLength size page = .ok (some length) ∧ length ≤ longer := by
  rw [UInt64.le_iff_toNat_le] at le
  rcases mappingLength_cases size power with overflows | ⟨length, roundsLess⟩
  · rw [mappingLength_eq_none_iff size power] at overflows
    have none : mappingLength larger page = .ok none :=
      (mappingLength_eq_none_iff larger power).mpr (by omega)
    rw [none] at rounds
    cases rounds
  · have least := (mappingLength_eq_some_iff power).mp rounds
    have leastLess := (mappingLength_eq_some_iff power).mp roundsLess
    exact ⟨length, roundsLess, least.mono leastLess (coverings_subset le)⟩

/-- The length of a size as a number, where having none counts as more than every number. -/
def lengthOrTop (size page : UInt64) : Except Panic (WithTop Nat) :=
  (mappingLength size page).map fun length => length.elim ⊤ fun bytes => .some bytes.toNat

theorem lengthOrTop_mono (power : page.toNat.isPowerOfTwo) (le : size ≤ larger) :
    ∃ bytes more, lengthOrTop size page = .ok bytes ∧ lengthOrTop larger page = .ok more ∧
      bytes ≤ more := by
  unfold lengthOrTop
  rcases mappingLength_cases larger power with overflows | ⟨longer, rounds⟩
  · rw [overflows]
    rcases mappingLength_cases size power with overflowsToo | ⟨length, rounds⟩
    · rw [overflowsToo]
      exact ⟨⊤, ⊤, rfl, rfl, le_top⟩
    · rw [rounds]
      exact ⟨.some length.toNat, ⊤, rfl, rfl, le_top⟩
  · obtain ⟨length, roundsLess, shorter⟩ := mappingLength_mono power le rounds
    rw [rounds, roundsLess]
    exact ⟨.some length.toNat, .some longer.toNat, rfl, rfl, WithTop.coe_le_coe.mpr shorter⟩

end Lengths

/-- **Lengths across page sizes.** Take a page size that is a power of two.

* Take a coarser page size, a power of two as well, and any size. If the size has no length under
  the small pages, it has none under the coarse ones. If it has one, rounding that length to coarse
  pages is the same as rounding the size to coarse pages. The coarse length is at least the small
  one, exceeds it by less than a coarse page, and is equal to it exactly if the small one makes up
  whole coarse pages.
* A larger size never has a shorter length, where no length counts as longer than all. -/
theorem lengths_across_page_sizes {page : UInt64} (power : page.toNat.isPowerOfTwo) :
    (∀ coarse : UInt64, coarse.toNat.isPowerOfTwo → page ≤ coarse → ∀ size,
      (mappingLength size page = .ok none → mappingLength size coarse = .ok none) ∧
      ∀ length, mappingLength size page = .ok (some length) →
        mappingLength length coarse = mappingLength size coarse ∧
        ∀ coarseLength, mappingLength size coarse = .ok (some coarseLength) →
          length ≤ coarseLength ∧ coarseLength.toNat - length.toNat < coarse.toNat ∧
          (length = coarseLength ↔ coarse.toNat ∣ length.toNat)) ∧
    ∀ size larger : UInt64, size ≤ larger →
      ∃ bytes more, lengthOrTop size page = .ok bytes ∧ lengthOrTop larger page = .ok more ∧
        bytes ≤ more := by
  refine ⟨fun coarse powerCoarse finer size => ⟨fun overflows => ?_, fun length rounds => ?_⟩,
    fun size larger le => ?_⟩
  · exact mappingLength_none_of_le power powerCoarse (UInt64.le_iff_toNat_le.mp finer) overflows
  · have nested := dvd_of_isPowerOfTwo_of_le power powerCoarse (UInt64.le_iff_toNat_le.mp finer)
    have again := mappingLength_of_dvd power powerCoarse nested rounds
    refine ⟨again, fun coarseLength roundsCoarse => ?_⟩
    -- the coarse length is the least covering of the length as well as of the size
    have nonempty : 0 < length.toNat := ((mappingLength_eq_some_iff power).mp rounds).1.1
    have least := (mappingLength_eq_some_iff powerCoarse).mp (again.trans roundsCoarse)
    refine ⟨UInt64.le_iff_toNat_le.mpr least.1.2.2, sub_lt_of_isLeast_coverings nonempty least, ?_⟩
    rw [← UInt64.toNat_inj]
    exact eq_iff_dvd_of_isLeast_coverings nonempty least
  · exact lengthOrTop_mono power le

/-- Pages of 4096 bytes and pages of sixteen times as many: a size that is rounded in two steps, one
that loses its length at the second step, and one that has none at the first. -/
theorem lengths_across_page_sizes_sixteenfold :
    (mappingLength 60000 4096 = .ok (some 61440) ∧
      mappingLength 61440 65536 = mappingLength 60000 65536 ∧
      mappingLength 60000 65536 = .ok (some 65536) ∧ (61440 : UInt64) ≤ 65536 ∧
      ((61440 : UInt64) = 65536 ↔ (65536 : UInt64).toNat ∣ (61440 : UInt64).toNat)) ∧
    (mappingLength 0xffffffffffff0001 4096 = .ok (some 0xffffffffffff1000) ∧
      mappingLength 0xffffffffffff1000 65536 = mappingLength 0xffffffffffff0001 65536 ∧
      mappingLength 0xffffffffffff0001 65536 = .ok none) ∧
    mappingLength 0xfffffffffffff001 65536 = .ok none ∧
    ∃ bytes more, lengthOrTop 60000 4096 = .ok bytes ∧
      lengthOrTop 0xfffffffffffff001 4096 = .ok more ∧
      bytes ≤ more := by
  obtain ⟨coarser, larger⟩ := @lengths_across_page_sizes 4096 ⟨12, rfl⟩
  have sixteenfold := coarser 65536 ⟨16, rfl⟩ (by decide)
  have twice : mappingLength 60000 4096 = .ok (some 61440) := by decide +kernel
  have once : mappingLength 60000 65536 = .ok (some 65536) := by decide +kernel
  have top : mappingLength 0xffffffffffff0001 4096 = .ok (some 0xffffffffffff1000) := by
    decide +kernel
  have lost : mappingLength 0xffffffffffff0001 65536 = .ok none := by decide +kernel
  have beyond : mappingLength 0xfffffffffffff001 4096 = .ok none := by decide +kernel
  obtain ⟨again, between⟩ := (sixteenfold 60000).2 61440 twice
  obtain ⟨covers, _, whole⟩ := between 65536 once
  exact ⟨⟨twice, again, once, covers, whole⟩, ⟨top, ((sixteenfold _).2 _ top).1, lost⟩,
    (sixteenfold _).1 beyond, larger _ _ (by decide)⟩

end ExecMemory
