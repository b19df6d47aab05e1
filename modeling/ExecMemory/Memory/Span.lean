/-!
# Spans of pages

Memory is managed in pages of `pageBytes` bytes, numbered from address zero. A `Span` is a run of
neighbouring pages, given by its first page and their number.

* `wholePages` rounds a length up to whole pages the way the host does, modulo the word size.
* `Span.ofRange` is the span a host call with an address and a length acts on.
* `Span.touching` is the span that an access to a range of bytes touches.
-/

namespace ExecMemory

/-- The number of bytes of a page of the host, whatever page size it reports. -/
def pageBytes : Nat := 4096

instance : @NeZero Nat Zero.ofOfNat0 pageBytes := ⟨Nat.succ_ne_zero 4095⟩

/-- A length rounded up to whole pages, modulo the word size. -/
def wholePages (length : UInt64) : UInt64 :=
  .ofNat ((length.toNat + (pageBytes - 1)) / pageBytes * pageBytes)

/-- Whether an address is the first of a page. -/
def isPageStart (address : UInt64) : Bool := address.toNat % pageBytes == 0

/-- A run of `count` neighbouring pages from page `first` on. -/
@[ext]
structure Span where
  first : Nat
  count : Nat
  deriving DecidableEq

namespace Span

/-- The page behind the last one. -/
def stop (span : Span) : Nat := span.first + span.count

instance : Membership Nat Span := ⟨fun span page => span.first ≤ page ∧ page < span.stop⟩

theorem mem_iff {span : Span} {page : Nat} :
    page ∈ span ↔ span.first ≤ page ∧ page < span.first + span.count :=
  Iff.rfl

@[simp]
theorem mem_mk {first count page : Nat} :
    page ∈ Span.mk first count ↔ first ≤ page ∧ page < first + count :=
  Iff.rfl

instance (page : Nat) (span : Span) : Decidable (page ∈ span) :=
  decidable_of_iff _ mem_iff.symm

/-- Two spans without a common page. -/
def Disjoint (s t : Span) : Prop := ∀ page, page ∈ s → page ∉ t

/-- The pages of `length` bytes from the page start `address` on. -/
def ofRange (address length : UInt64) : Span where
  first := address.toNat / pageBytes
  count := (wholePages length).toNat / pageBytes

/-- The pages that hold at least one of the `length` bytes from `start` on. -/
def touching (start length : Nat) : Span where
  first := start / pageBytes
  count := if length = 0 then 0 else (start + length - 1) / pageBytes - start / pageBytes + 1

/-- A page is touched by a range exactly when it holds one of its bytes. -/
theorem mem_touching {start length page : Nat} :
    page ∈ touching start length ↔
      ∃ address, start ≤ address ∧ address < start + length ∧ address / pageBytes = page := by
  simp only [mem_iff, touching, pageBytes]
  constructor
  · rintro ⟨low, high⟩
    split at high
    · omega
    · by_cases inside : start ≤ page * 4096
      · exact ⟨page * 4096, by omega, by omega, by omega⟩
      · exact ⟨start, by omega, by omega, by omega⟩
  · rintro ⟨address, low, high, rfl⟩
    rw [if_neg (by omega)]
    omega

end Span

end ExecMemory
