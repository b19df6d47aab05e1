import ExecMemory.Rounding

/-!
# Rounding as arithmetic

The masks of `Rounding` compute what they are meant to compute: for a page size that is a power of
two,

* clearing the low bits is rounding down to a multiple (`toNat_and_mask`);
* a size has a rounding exactly when its least multiple fits in a word (`roundUpToPage_eq`);
* the length of a mapping is that multiple, but at least a page (`mappingLength_eq`).
-/

namespace ExecMemory

/-- The least multiple of `page` that is at least `size`. -/
def leastMultiple (size page : Nat) : Nat := (size + (page - 1)) / page * page

/-- The number of bytes a mapping of `size` bytes has, where there is such a number. -/
def mappedBytes (size page : UInt64) : UInt64 :=
  .ofNat (max (leastMultiple size.toNat page.toNat) page.toNat)

theorem le_leastMultiple (size : Nat) {page : Nat} (positive : 0 < page) :
    size ≤ leastMultiple size page := by
  have divided := Nat.div_add_mod' (size + (page - 1)) page
  have rest := Nat.mod_lt (size + (page - 1)) positive
  unfold leastMultiple
  omega

theorem leastMultiple_le (size page : Nat) : leastMultiple size page ≤ size + (page - 1) :=
  Nat.div_mul_le_self _ _

/-! ## Masks -/

/-- A mask that spares the bits from a power of two on rounds down to its multiple. -/
theorem and_mask_eq {x page : Nat} (bound : x < UInt64.size) (power : page.isPowerOfTwo)
    (inWord : page ≤ UInt64.size) : x &&& (UInt64.size - 1 - (page - 1)) = x / page * page := by
  obtain ⟨k, rfl⟩ := power
  change x < 2 ^ 64 at bound
  change 2 ^ k ≤ 2 ^ 64 at inWord
  show x &&& (2 ^ 64 - 1 - (2 ^ k - 1)) = _
  have positive : 0 < 2 ^ k := Nat.two_pow_pos k
  have mask : 2 ^ 64 - 1 - (2 ^ k - 1) = 2 ^ 64 - ((2 ^ k - 1) + 1) := by omega
  apply Nat.eq_of_testBit_eq
  intro i
  rw [Nat.testBit_and, mask, Nat.testBit_two_pow_sub_succ (by omega),
    Nat.testBit_two_pow_sub_one, Nat.testBit_mul_two_pow, Nat.testBit_div_two_pow]
  by_cases above : k ≤ i
  · rw [Nat.sub_add_cancel above]
    by_cases inside : i < 64
    · simp [inside, above]
    · -- no word has a bit there
      have clear : x.testBit i = false :=
        Nat.testBit_lt_two_pow
          (Nat.lt_of_lt_of_le bound (Nat.pow_le_pow_right (by decide) (by omega)))
      simp [clear]
  · have low : i < k := by omega
    simp [above, low]

theorem pos_of_isPowerOfTwo {page : UInt64} (power : page.toNat.isPowerOfTwo) :
    0 < page.toNat :=
  Nat.pos_of_isPowerOfTwo power

theorem toNat_sub_one {page : UInt64} (positive : 0 < page.toNat) :
    (page - 1).toNat = page.toNat - 1 := by
  rw [UInt64.toNat_sub_of_le]
  · rfl
  · rw [UInt64.le_iff_toNat_le]
    exact positive

/-- Clearing the bits below a power of two rounds down to its multiple. -/
theorem toNat_and_mask {x page : UInt64} (power : page.toNat.isPowerOfTwo) :
    (x &&& ~~~(page - 1)).toNat = x.toNat / page.toNat * page.toNat := by
  rw [UInt64.toNat_and, UInt64.toNat_not, toNat_sub_one (pos_of_isPowerOfTwo power)]
  exact and_mask_eq x.toNat_lt power (Nat.le_of_lt page.toNat_lt)

theorem alignDown_eq {x page : UInt64} (power : page.toNat.isPowerOfTwo) :
    alignDown x page = .ok (.ofNat (x.toNat / page.toNat * page.toNat)) := by
  rw [alignDown_of_ne_zero (ne_zero_of_isPowerOfTwo power), ← toNat_and_mask power,
    UInt64.ofNat_toNat]

/-! ## Sizes -/

/-- The test for overflow rejects a size exactly when its least multiple does not fit in a word: the
word size is a multiple of the page size, so the sum and its rounding pass it together. -/
theorem add_lt_iff_leastMultiple_lt (size : Nat) {page : Nat} (power : page.isPowerOfTwo)
    (inWord : page < UInt64.size) :
    size + (page - 1) < UInt64.size ↔ leastMultiple size page < UInt64.size := by
  have positive := Nat.pos_of_isPowerOfTwo power
  obtain ⟨k, rfl⟩ := power
  have exponent : k ≤ 64 := Nat.le_of_lt ((Nat.pow_lt_pow_iff_right (by decide)).mp inWord)
  have multiple : UInt64.size = 2 ^ (64 - k) * 2 ^ k := by
    rw [← Nat.pow_add, Nat.sub_add_cancel exponent]
  constructor
  · intro sumFits
    exact Nat.lt_of_le_of_lt (leastMultiple_le size _) sumFits
  · intro fits
    unfold leastMultiple at fits
    rw [multiple, Nat.mul_lt_mul_right positive, Nat.div_lt_iff_lt_mul positive, ← multiple] at fits
    exact fits

/-- Rounding up is exact: the least multiple where it fits in a word, and nothing elsewhere. -/
theorem roundUpToPage_eq {size page : UInt64} (power : page.toNat.isPowerOfTwo) :
    roundUpToPage size page =
      .ok (if leastMultiple size.toNat page.toNat < UInt64.size
        then some (.ofNat (leastMultiple size.toNat page.toNat)) else none) := by
  have positive := pos_of_isPowerOfTwo power
  have together := add_lt_iff_leastMultiple_lt size.toNat power page.toNat_lt
  rw [roundUpToPage_unchecked, if_pos power]
  by_cases fits : leastMultiple size.toNat page.toNat < UInt64.size
  · have sumFits := together.mpr fits
    rw [← toNat_sub_one positive] at sumFits
    have sum : (size + (page - 1)).toNat = size.toNat + (page.toNat - 1) := by
      rw [UInt64.toNat_add, Nat.mod_eq_of_lt sumFits, toNat_sub_one positive]
    have rounded : (size + (page - 1)) &&& ~~~(page - 1) =
        .ofNat (leastMultiple size.toNat page.toNat) := by
      rw [leastMultiple, ← sum, ← toNat_and_mask power, UInt64.ofNat_toNat]
    rw [if_pos fits, checkedAdd_eq_some_iff.mpr ⟨sumFits, rfl⟩, Option.map_some, rounded]
  · have tooLarge : UInt64.size ≤ size.toNat + (page - 1).toNat := by
      rw [toNat_sub_one positive]
      omega
    rw [if_neg fits, checkedAdd_eq_none_iff.mpr tooLarge, Option.map_none]

theorem toNat_mappedBytes {size page : UInt64}
    (fits : leastMultiple size.toNat page.toNat < UInt64.size) :
    (mappedBytes size page).toNat = max (leastMultiple size.toNat page.toNat) page.toNat := by
  unfold mappedBytes
  exact UInt64.toNat_ofNat_of_lt' (Nat.max_lt.mpr ⟨fits, page.toNat_lt⟩)

/-- The length of a mapping: the least multiple, but at least one page. -/
theorem mappingLength_eq (size : UInt64) {page : UInt64} (power : page.toNat.isPowerOfTwo) :
    mappingLength size page =
      .ok (if leastMultiple size.toNat page.toNat < UInt64.size
        then some (mappedBytes size page) else none) := by
  unfold mappingLength
  rw [roundUpToPage_eq power]
  by_cases fits : leastMultiple size.toNat page.toNat < UInt64.size
  · rw [if_pos fits, if_pos fits]
    have larger : max (.ofNat (leastMultiple size.toNat page.toNat)) page =
        mappedBytes size page := by
      apply UInt64.toNat_inj.mp
      rw [toNat_mappedBytes fits]
      have low : (UInt64.ofNat (leastMultiple size.toNat page.toNat)).toNat =
          leastMultiple size.toNat page.toNat := UInt64.toNat_ofNat_of_lt' fits
      show (if _ ≤ _ then _ else _ : UInt64).toNat = _
      split
      · rename_i covered
        rw [UInt64.le_iff_toNat_le, low] at covered
        omega
      · rename_i short
        rw [UInt64.le_iff_toNat_le, low] at short
        rw [low]
        omega
    rw [← larger]
    rfl
  · rw [if_neg fits, if_neg fits]
    rfl

/-- A size has a length or is too large for one. -/
theorem mappingLength_cases (size : UInt64) {page : UInt64} (power : page.toNat.isPowerOfTwo) :
    mappingLength size page = .ok none ∨ ∃ length, mappingLength size page = .ok (some length) := by
  rw [mappingLength_eq size power]
  by_cases fits : leastMultiple size.toNat page.toNat < UInt64.size
  · exact .inr ⟨_, by rw [if_pos fits]⟩
  · exact .inl (by rw [if_neg fits])

/-- A size has no length exactly if it is less than a page away from the end of all numbers. -/
theorem mappingLength_eq_none_iff (size : UInt64) {page : UInt64}
    (power : page.toNat.isPowerOfTwo) :
    mappingLength size page = .ok none ↔ UInt64.size - page.toNat < size.toNat := by
  have positive := pos_of_isPowerOfTwo power
  have inWord := page.toNat_lt_size
  have together := add_lt_iff_leastMultiple_lt size.toNat power inWord
  rw [mappingLength_eq size power]
  by_cases fits : leastMultiple size.toNat page.toNat < UInt64.size
  · have sumFits := together.mpr fits
    rw [if_pos fits]
    exact ⟨nofun, fun large => by omega⟩
  · have tooLarge := mt together.mp fits
    rw [if_neg fits]
    exact ⟨fun _ => by omega, fun _ => rfl⟩

/-- Where there is a length, it is the arithmetical one and covers the size. -/
theorem mappingLength_eq_some {size page length : UInt64} (power : page.toNat.isPowerOfTwo)
    (rounds : mappingLength size page = .ok (some length)) :
    length = mappedBytes size page ∧ size.toNat ≤ length.toNat := by
  rw [mappingLength_eq size power] at rounds
  by_cases fits : leastMultiple size.toNat page.toNat < UInt64.size
  · rw [if_pos fits] at rounds
    have same : mappedBytes size page = length := by
      injection rounds with answer
      injection answer
    refine ⟨same.symm, ?_⟩
    rw [← same, toNat_mappedBytes fits]
    have := le_leastMultiple size.toNat (pos_of_isPowerOfTwo power)
    omega
  · rw [if_neg fits] at rounds
    cases rounds

end ExecMemory
