import ExecMemory.Access
import ExecMemory.Memory.Span

/-!
# Paged memory

A `Memory` gives for each page number either nothing (the page is not mapped) or the page's
permissions and bytes. A page that is not mapped has no content, so two memories are equal exactly
when they map the same pages with the same permissions and bytes.

* `mapPages`, `protectPages` and `unmapPages` change whole pages.
* `mappedCount` measures how far the mapped pages reach from the start of a span.
* `read?`, `write?` and `fetch?` access bytes; they give `none` where a page does not allow it.

Each operation has a lemma that says what it does to `page?`.
-/

namespace ExecMemory

/-- A mapped page. -/
@[ext]
structure Page where
  perms : Perms
  bytes : Fin pageBytes → UInt8

/-- A page of zeros. -/
def Page.zeroed (perms : Perms) : Page := ⟨perms, fun _ => 0⟩

/-- The mapped pages, by page number. -/
@[ext]
structure Memory where
  page? : Nat → Option Page

namespace Memory

/-- Nothing is mapped. -/
def empty : Memory := ⟨fun _ => none⟩

/-- The byte at an address, if its page is mapped. -/
def byte? (memory : Memory) (address : Nat) : Option UInt8 :=
  (memory.page? (address / pageBytes)).map (·.bytes (Fin.ofNat pageBytes address))

/-! ## Whole pages -/

/-- Maps the pages of a span afresh, filled with zeros. -/
def mapPages (memory : Memory) (span : Span) (perms : Perms) : Memory where
  page? n := if n ∈ span then some (.zeroed perms) else memory.page? n

/-- Gives the mapped pages of a span new permissions. -/
def protectPages (memory : Memory) (span : Span) (perms : Perms) : Memory where
  page? n :=
    if n ∈ span then (memory.page? n).map fun page => { page with perms } else memory.page? n

/-- Removes the pages of a span. -/
def unmapPages (memory : Memory) (span : Span) : Memory where
  page? n := if n ∈ span then none else memory.page? n

/-- The number of mapped pages from page `first` on before the first unmapped one, `count` at
most. -/
def mappedCount (memory : Memory) : (first count : Nat) → Nat
  | _, 0 => 0
  | first, count + 1 =>
    if (memory.page? first).isSome then memory.mappedCount (first + 1) count + 1 else 0

/-! ## Bytes -/

/-- Whether `count` pages from page `first` on are all mapped with permissions that `ok` accepts. -/
def permitsFrom (memory : Memory) (ok : Perms → Bool) : (first count : Nat) → Bool
  | _, 0 => true
  | first, count + 1 =>
    match memory.page? first with
    | some page => ok page.perms && memory.permitsFrom ok (first + 1) count
    | none => false

/-- Whether every byte of a range lies on a page with permissions that `ok` accepts. A range of no
bytes is always permitted. -/
def permits (memory : Memory) (ok : Perms → Bool) (start length : Nat) : Bool :=
  let span := Span.touching start length
  memory.permitsFrom ok span.first span.count

/-- The bytes of a range; a byte that is not mapped counts as zero. -/
def load (memory : Memory) (start length : Nat) : List UInt8 :=
  (List.range length).map fun i => (memory.byte? (start + i)).getD 0

/-- Replaces the mapped bytes of a range, the `i`-th by `content i`. -/
def overwrite (memory : Memory) (start length : Nat) (content : Nat → UInt8) : Memory where
  page? n := (memory.page? n).map fun page =>
    { page with
      bytes := fun i =>
        let address := n * pageBytes + i
        if start ≤ address ∧ address < start + length then content (address - start)
        else page.bytes i }

/-- Reads a range, or nothing if one of its bytes cannot be read. -/
def read? (memory : Memory) (start length : Nat) : Option (List UInt8) :=
  if memory.permits Perms.readable start length then some (memory.load start length) else none

/-- Writes a range, or nothing if one of its bytes cannot be written. -/
def write? (memory : Memory) (start length : Nat) (content : Nat → UInt8) : Option Memory :=
  if memory.permits Perms.write start length then some (memory.overwrite start length content)
  else none

/-- The byte at an address, if it can be executed. -/
def fetch? (memory : Memory) (address : Nat) : Option UInt8 :=
  match memory.page? (address / pageBytes) with
  | some page => if page.perms.exec then some (page.bytes (Fin.ofNat pageBytes address)) else none
  | none => none

/-! ## What the operations do to the pages -/

@[simp]
theorem page?_empty (n : Nat) : empty.page? n = none := rfl

@[simp]
theorem page?_mapPages (memory : Memory) (span : Span) (perms : Perms) (n : Nat) :
    (memory.mapPages span perms).page? n =
      if n ∈ span then some (.zeroed perms) else memory.page? n := rfl

@[simp]
theorem page?_protectPages (memory : Memory) (span : Span) (perms : Perms) (n : Nat) :
    (memory.protectPages span perms).page? n =
      if n ∈ span then (memory.page? n).map fun page => { page with perms }
      else memory.page? n := rfl

@[simp]
theorem page?_unmapPages (memory : Memory) (span : Span) (n : Nat) :
    (memory.unmapPages span).page? n = if n ∈ span then none else memory.page? n := rfl

/-- Writing bytes keeps every page mapped as it was, with its permissions. -/
theorem map_perms_page?_overwrite (memory : Memory) (start length : Nat)
    (content : Nat → UInt8) (n : Nat) :
    ((memory.overwrite start length content).page? n).map Page.perms =
      (memory.page? n).map Page.perms := by
  simp [overwrite, Function.comp_def]

/-- The bytes after a write: the new ones inside the range, the old ones outside. -/
theorem byte?_overwrite (memory : Memory) (start length : Nat) (content : Nat → UInt8)
    (address : Nat) :
    (memory.overwrite start length content).byte? address =
      (memory.byte? address).map fun byte =>
        if start ≤ address ∧ address < start + length then content (address - start)
        else byte := by
  have split : address / pageBytes * pageBytes + address % pageBytes = address :=
    Nat.div_add_mod' address pageBytes
  simp [overwrite, byte?, Function.comp_def, split]

/-! ## Access to ranges -/

theorem permitsFrom_eq_true_iff (memory : Memory) (ok : Perms → Bool) (first count : Nat) :
    memory.permitsFrom ok first count = true ↔
      ∀ n ∈ Span.mk first count, ∃ page, memory.page? n = some page ∧ ok page.perms = true := by
  induction count generalizing first with
  | zero =>
    simp only [permitsFrom, Span.mem_mk, true_iff]
    omega
  | succ count ih =>
    cases found : memory.page? first with
    | none =>
      simp only [permitsFrom, found, Bool.false_eq_true, false_iff]
      intro all
      obtain ⟨page, mapped, _⟩ := all first (by simp)
      simp [found] at mapped
    | some page =>
      simp only [permitsFrom, found, Bool.and_eq_true, ih, Span.mem_mk]
      constructor
      · rintro ⟨here, rest⟩ n ⟨low, high⟩
        rcases Nat.eq_or_lt_of_le low with rfl | later
        · exact ⟨page, found, here⟩
        · exact rest n ⟨later, by omega⟩
      · intro all
        refine ⟨?_, fun n inside => all n (by omega)⟩
        obtain ⟨other, mapped, here⟩ := all first (by omega)
        cases found.symm.trans mapped
        exact here

/-- A range is permitted exactly when each of its bytes is. -/
theorem permits_eq_true_iff (memory : Memory) (ok : Perms → Bool) (start length : Nat) :
    memory.permits ok start length = true ↔
      ∀ address, start ≤ address → address < start + length →
        ∃ page, memory.page? (address / pageBytes) = some page ∧ ok page.perms = true := by
  rw [permits, permitsFrom_eq_true_iff]
  constructor
  · intro all address low high
    exact all _ (Span.mem_touching.mpr ⟨address, low, high, rfl⟩)
  · intro all n inside
    obtain ⟨address, low, high, rfl⟩ := Span.mem_touching.mp inside
    exact all address low high

@[simp]
theorem length_load (memory : Memory) (start length : Nat) :
    (memory.load start length).length = length := by
  simp [load]

/-! ## The mapped start of a span -/

theorem mappedCount_le (memory : Memory) (first count : Nat) :
    memory.mappedCount first count ≤ count := by
  induction count generalizing first with
  | zero => simp [mappedCount]
  | succ count ih =>
    rw [mappedCount]
    split
    · exact Nat.succ_le_succ (ih (first + 1))
    · exact Nat.zero_le _

/-- The counted pages are mapped. -/
theorem isSome_page?_of_lt_mappedCount (memory : Memory) {first count n : Nat}
    (low : first ≤ n) (high : n < first + memory.mappedCount first count) :
    (memory.page? n).isSome := by
  induction count generalizing first with
  | zero => simp [mappedCount] at high; omega
  | succ count ih =>
    rw [mappedCount] at high
    split at high
    · rename_i mapped
      rcases Nat.eq_or_lt_of_le low with rfl | later
      · exact mapped
      · have : n < first + 1 + memory.mappedCount (first + 1) count := by omega
        exact ih later this
    · omega

/-- The page behind the counted ones is not mapped, unless the count is full. -/
theorem page?_mappedCount (memory : Memory) {first count : Nat}
    (short : memory.mappedCount first count < count) :
    memory.page? (first + memory.mappedCount first count) = none := by
  induction count generalizing first with
  | zero => omega
  | succ count ih =>
    rw [mappedCount] at short ⊢
    split at short
    · rename_i mapped
      rw [if_pos mapped, ← Nat.add_assoc, Nat.add_right_comm]
      exact ih (by omega)
    · rename_i unmapped
      rw [if_neg unmapped]
      simpa using unmapped

end Memory

end ExecMemory
