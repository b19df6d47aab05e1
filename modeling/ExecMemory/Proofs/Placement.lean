import ExecMemory.Proofs.Execution
import Mathlib.Data.List.Pairwise

/-!
# Where mappings lie

The host hands out spans in ascending order and leaves at least one page between two of them,
whatever was planned or taken back in the meantime. `Host.Spaced` says so, and every script keeps it
(`Machine.spaced_after`).

* What is mapped next lies behind all of them, on pages that are not mapped
  (`Host.Spaced.page?_next`).
* Two spans that were handed out have no common page (`Host.Spaced.disjoint`).
* The page behind a span is not mapped (`Host.Spaced.page?_stop`).
* A mapped page outside one of these spans belongs to another of them (`Host.Spaced.foreign_iff`).

`Host.call_cases` says all that a host call can do to pages and placement, and
`HostInvariant.of_placement` makes an invariant of whatever these two kinds of change keep.
-/

namespace ExecMemory

/-! ## Spans that begin together -/

/-- Of two spans that begin together, what is in the one and not in the other lies between their
ends. -/
theorem Span.mem_and_not_mem_iff {own now : Span} (together : own.first = now.first) {n : Nat} :
    n ∈ now ∧ n ∉ own ↔ own.stop ≤ n ∧ n < now.stop := by
  have ordered : own.first ≤ own.stop := Nat.le_add_right _ _
  constructor
  · rintro ⟨⟨low, high⟩, outside⟩
    exact ⟨Nat.le_of_not_lt fun short => outside ⟨together ▸ low, short⟩, high⟩
  · rintro ⟨low, high⟩
    exact ⟨⟨by omega, high⟩, fun inside => Nat.not_lt_of_le low inside.2⟩

/-- Of two spans that begin together, the one of fewer pages lies in the other. -/
theorem Span.subset_iff {own now : Span} (together : own.first = now.first)
    (nonempty : 0 < own.count) :
    (∀ n ∈ own, n ∈ now) ↔ own.count ≤ now.count := by
  constructor
  · intro inside
    have last := inside (own.first + (own.count - 1)) (Span.mem_iff.mpr (by omega))
    rw [Span.mem_iff] at last
    omega
  · intro fewer n member
    rw [Span.mem_iff] at member ⊢
    omega

/-! ## What the host handed out -/

/-- The page is mapped before and no longer mapped after. -/
def Memory.Loses (before after : Memory) (n : Nat) : Prop :=
  (before.page? n).isSome ∧ after.page? n = none

theorem Memory.loses_unmapPages {memory : Memory} {span : Span} {n : Nat} :
    memory.Loses (memory.unmapPages span) n ↔ (memory.page? n).isSome ∧ n ∈ span := by
  unfold Loses
  rw [page?_unmapPages]
  by_cases member : n ∈ span
  · simp [member]
  · rw [if_neg member]
    cases memory.page? n <;> simp [member]

namespace Host

/-- The spans handed out ascend with gaps between them and end before the cursor with another gap,
and nothing else is mapped. -/
structure Spaced (host : Host) : Prop where
  cursor_mod : host.cursor % placement = 0
  ascending : host.placed.Pairwise fun span next => span.stop < next.first
  behind : ∀ span ∈ host.placed, (span.stop + 1) * pageBytes ≤ mapBase + host.cursor
  covered : ∀ n, (host.memory.page? n).isSome → ∃ span ∈ host.placed, n ∈ span

/-- The page is mapped, and it belongs to a mapping other than `own`. -/
def Foreign (host : Host) (own : Span) (n : Nat) : Prop :=
  (host.memory.page? n).isSome ∧ ∃ span ∈ host.placed, span ≠ own ∧ n ∈ span

namespace Spaced

variable {host : Host} {length : UInt64} {perms : Perms}

theorem initial : Host.initial.Spaced where
  cursor_mod := rfl
  ascending := .nil
  behind := nofun
  covered := nofun

variable (spaced : host.Spaced)
include spaced

/-- Pages may change and go, as long as none is added. -/
theorem withMemory {memory : Memory}
    (old : ∀ n, (memory.page? n).isSome → (host.memory.page? n).isSome) :
    { host with memory }.Spaced where
  cursor_mod := spaced.cursor_mod
  ascending := spaced.ascending
  behind := spaced.behind
  covered n mapped := spaced.covered n (old n mapped)

/-- Plans and the reported page size play no part. -/
theorem withPlans (plans : List Plan) (pageSize : UInt64) :
    { host with plans, pageSize }.Spaced where
  cursor_mod := spaced.cursor_mod
  ascending := spaced.ascending
  behind := spaced.behind
  covered := spaced.covered

/-- What is mapped next begins at the page of the cursor. -/
theorem first_next (fits : Addressable length) (room : host.HasRoom length) :
    (Span.ofRange (.ofNat (mapBase + host.cursor)) length).first * pageBytes =
      mapBase + host.cursor := by
  have aligned := spaced.cursor_mod
  show (UInt64.ofNat (mapBase + host.cursor)).toNat / pageBytes * pageBytes = _
  rw [room.toNat_next fits]
  unfold mapBase placement pageBytes at *
  omega

/-- What is mapped next lies behind everything that was handed out. -/
theorem before_next (fits : Addressable length) (room : host.HasRoom length) {span : Span}
    (placed : span ∈ host.placed) :
    span.stop < (Span.ofRange (.ofNat (mapBase + host.cursor)) length).first := by
  have before := spaced.behind span placed
  rw [← spaced.first_next fits room] at before
  exact Nat.le_of_mul_le_mul_right before (by decide)

/-- So none of its pages is mapped yet. -/
theorem page?_next (fits : Addressable length) (room : host.HasRoom length) {n : Nat}
    (member : n ∈ Span.ofRange (.ofNat (mapBase + host.cursor)) length) :
    host.memory.page? n = none := by
  rw [← Option.not_isSome_iff_eq_none]
  intro mapped
  obtain ⟨span, placed, _, high⟩ := spaced.covered n mapped
  have before := spaced.before_next fits room placed
  have low := member.1
  omega

/-- A new span begins at the cursor and ends before the place where the cursor goes. -/
theorem mapped (fits : Addressable length) (room : host.HasRoom length) :
    (host.mapped length perms).Spaced := by
  have aligned := spaced.cursor_mod
  have rounded := toNat_wholePages fits.1
  have first := spaced.first_next fits room
  have stop : ((Span.ofRange (.ofNat (mapBase + host.cursor)) length).stop + 1) * pageBytes ≤
      mapBase + (host.cursor + stride length) := by
    show ((_ + (wholePages length).toNat / pageBytes) + 1) * pageBytes ≤ _
    rw [Nat.add_mul, Nat.add_mul, first, rounded]
    unfold leastMultiple stride placement pageBytes
    omega
  refine ⟨?_, ?_, ?_, ?_⟩
  · show (host.cursor + stride length) % placement = 0
    unfold stride placement at *
    omega
  · refine List.pairwise_append.mpr ⟨spaced.ascending, List.pairwise_singleton _ _, ?_⟩
    intro span member next new
    cases List.mem_singleton.mp new
    exact spaced.before_next fits room member
  · intro span member
    rcases List.mem_append.mp member with old | new
    · have before := spaced.behind span old
      exact Nat.le_trans before (Nat.add_le_add_left (Nat.le_add_right _ _) _)
    · cases List.mem_singleton.mp new
      exact stop
  · intro n found
    by_cases member : n ∈ Span.ofRange (.ofNat (mapBase + host.cursor)) length
    · exact ⟨_, List.mem_append_right _ List.mem_cons_self, member⟩
    · have old : (host.memory.page? n).isSome := by
        rwa [show (host.mapped length perms).memory.page? n =
          host.memory.page? n from if_neg member]
          at found
      obtain ⟨span, member, inside⟩ := spaced.covered n old
      exact ⟨span, List.mem_append_left _ member, inside⟩

/-- Of two different spans that were handed out, one ends before the other begins, with a gap. -/
theorem apart {span other : Span} (placed : span ∈ host.placed) (placedOther : other ∈ host.placed)
    (different : span ≠ other) : span.stop < other.first ∨ other.stop < span.first := by
  have eitherWay : host.placed.Pairwise fun span other =>
      span.stop < other.first ∨ other.stop < span.first :=
        spaced.ascending.imp fun before => .inl before
  have : Std.Symm fun span other : Span => span.stop < other.first ∨ other.stop < span.first :=
    ⟨fun _ _ => Or.symm⟩
  exact eitherWay.forall placed placedOther different

theorem disjoint {span other : Span} (placed : span ∈ host.placed)
    (placedOther : other ∈ host.placed) (different : span ≠ other) : span.Disjoint other := by
  intro n inside insideOther
  obtain ⟨low, high⟩ := inside
  obtain ⟨lowOther, highOther⟩ := insideOther
  rcases spaced.apart placed placedOther different with before | after
  · omega
  · omega

/-- The page behind a span that was handed out is not mapped. -/
theorem page?_stop {span : Span} (placed : span ∈ host.placed) :
    host.memory.page? span.stop = none := by
  rw [← Option.not_isSome_iff_eq_none]
  intro mapped
  obtain ⟨other, placedOther, low, high⟩ := spaced.covered _ mapped
  have different : span ≠ other := by
    rintro rfl
    exact Nat.lt_irrefl _ high
  rcases spaced.apart placed placedOther different with before | after
  · omega
  · unfold Span.stop at *
    omega

/-- A mapped page is another mapping's exactly if it lies outside. -/
theorem foreign_iff {own : Span} (placed : own ∈ host.placed) {n : Nat} :
    host.Foreign own n ↔ (host.memory.page? n).isSome ∧ n ∉ own := by
  constructor
  · rintro ⟨mapped, span, placedSpan, different, inside⟩
    exact ⟨mapped, spaced.disjoint placedSpan placed different n inside⟩
  · rintro ⟨mapped, outside⟩
    obtain ⟨span, placedSpan, inside⟩ := spaced.covered n mapped
    refine ⟨mapped, span, placedSpan, ?_, inside⟩
    rintro rfl
    exact outside inside

/-- What is lost with a range that begins where a mapping begins: others lose pages exactly if they
have some between the end of the mapping and the end of the range, and the mapping is what is lost
exactly if the range covers it and nobody else has pages there. -/
theorem losses {own now : Span} (placed : own ∈ host.placed) (together : own.first = now.first)
    (mapped : ∀ n ∈ own, (host.memory.page? n).isSome) :
    ((∃ n, host.memory.Loses (host.memory.unmapPages now) n ∧ host.Foreign own n) ↔
      ∃ n, host.Foreign own n ∧ own.stop ≤ n ∧ n < now.stop) ∧
    ((∀ n, host.memory.Loses (host.memory.unmapPages now) n ↔ n ∈ own) ↔
      (∀ n ∈ own, n ∈ now) ∧ ¬ ∃ n, host.Foreign own n ∧ own.stop ≤ n ∧ n < now.stop) := by
  simp only [Memory.loses_unmapPages, ← Span.mem_and_not_mem_iff together]
  constructor
  · constructor
    · rintro ⟨n, ⟨_, member⟩, others⟩
      exact ⟨n, others, member, ((spaced.foreign_iff placed).mp others).2⟩
    · rintro ⟨n, others, member, _⟩
      exact ⟨n, ⟨others.1, member⟩, others⟩
  · constructor
    · intro exactly
      refine ⟨fun n inside => ((exactly n).mpr inside).2, ?_⟩
      rintro ⟨n, others, member, outside⟩
      exact outside ((exactly n).mp ⟨others.1, member⟩)
    · rintro ⟨covered, alone⟩ n
      refine ⟨fun ⟨found, member⟩ => ?_, fun inside => ⟨mapped n inside, covered n inside⟩⟩
      by_contra outside
      exact alone ⟨n, (spaced.foreign_iff placed).mpr ⟨found, outside⟩, member, outside⟩

end Spaced

end Host

/-! ## Every script -/

namespace Host

/-- A request that is served changes or removes pages, or it maps a span at the cursor. -/
theorem serve_cases (host : Host) (request : Request) :
    (∃ memory : Memory, (∀ n, (memory.page? n).isSome → (host.memory.page? n).isSome) ∧
      (host.serve request).2 = { host with memory }) ∨
    ∃ length perms, Addressable length ∧ host.HasRoom length ∧
      (host.serve request).2 = host.mapped length perms := by
  cases request with
  | map length perms =>
      have served : (host.serve (.map length perms)).2 = (host.map length perms).2 := rfl
      rw [served, map_eq]
      split
      · rename_i granted
        exact .inr ⟨length, perms, granted.1, granted.2, rfl⟩
      · exact .inl ⟨host.memory, fun _ found => found, rfl⟩
  | protect address length perms =>
      left
      show ∃ memory, _ ∧ (host.protect address length perms).2 = _
      unfold Host.protect
      split
      · split
        · refine ⟨_, fun n found => ?_, rfl⟩
          rw [Memory.page?_protectPages] at found
          split at found
          · rwa [Option.isSome_map] at found
          · exact found
        · exact ⟨host.memory, fun _ found => found, rfl⟩
      · exact ⟨host.memory, fun _ found => found, rfl⟩
  | unmap address length =>
      left
      show ∃ memory, _ ∧ (host.unmap address length).2 = _
      unfold Host.unmap
      split
      · refine ⟨_, fun n found => ?_, rfl⟩
        rw [Memory.page?_unmapPages] at found
        split at found
        · cases found
        · exact found
      · exact ⟨host.memory, fun _ found => found, rfl⟩

/-- So does every call, and it may use up a plan. -/
theorem call_cases (host : Host) (request : Request) : ∃ plans,
    (∃ memory : Memory, (∀ n, (memory.page? n).isSome → (host.memory.page? n).isSome) ∧
      (host.call request).2 = { host with plans, memory }) ∨
    ∃ length perms, Addressable length ∧ host.HasRoom length ∧
      (host.call request).2 = { host with plans }.mapped length perms := by
  unfold Host.call
  rcases Plan.take request.kind host.plans with ⟨fault, plans⟩
  refine ⟨plans, ?_⟩
  rcases fault with _ | (_ | length | _)
  · exact serve_cases { host with plans } request
  · exact .inl ⟨host.memory, fun _ found => found, rfl⟩
  · exact serve_cases { host with plans } (request.withLength length)
  · exact .inl ⟨host.memory, fun _ found => found, rfl⟩

end Host

/-- A write maps no page that was not mapped. -/
theorem Memory.isSome_page?_write? {memory written : Memory} {start length n : Nat}
    {content : Nat → UInt8} (wrote : memory.write? start length content = some written) :
    (written.page? n).isSome = (memory.page? n).isSome := by
  obtain ⟨_, rfl⟩ := Memory.write?_eq_some_iff.mp wrote
  exact Option.isSome_map

/-- What stays true while pages change and go, and whenever a span is mapped at the cursor, stays
true in every script. -/
theorem HostInvariant.of_placement {I : Host → Prop}
    (pages : ∀ {host : Host} {memory : Memory} (plans : List Plan) (pageSize : UInt64),
      (∀ n, (memory.page? n).isSome → (host.memory.page? n).isSome) → I host →
        I { host with memory, plans, pageSize })
    (mapped : ∀ {host : Host} {length : UInt64} {perms : Perms}, Host.Addressable length →
      host.HasRoom length → I host → I (host.mapped length perms)) :
    HostInvariant (fun _ => True) I where
  call host request _ holds := by
    obtain ⟨plans, ⟨memory, old, left⟩ | ⟨length, perms, fits, room, left⟩⟩ :=
      host.call_cases request
    · rw [left]
      exact pages plans host.pageSize old holds
    · rw [left]
      exact @mapped { host with plans } _ _ fits room
        (pages plans host.pageSize (fun _ found => found) holds)
  write host _ _ _ _ wrote holds :=
    pages host.plans host.pageSize
      (fun _ found => (Memory.isSome_page?_write? wrote).symm.trans found) holds
  plan _ _ holds := pages _ _ (fun _ found => found) holds
  pageSize _ _ holds := pages _ _ (fun _ found => found) holds

theorem spaced_invariant : HostInvariant (fun _ => True) Host.Spaced :=
  .of_placement (fun plans pageSize old spaced => (spaced.withMemory old).withPlans plans pageSize)
    fun fits room spaced => spaced.mapped fits room

/-- Where nothing is assumed of permissions, every step may be taken. -/
theorem Step.within_any (step : Step) : step.Within fun _ => True := by
  unfold Step.Within
  split <;> trivial

/-- **Whatever a script did**, its mappings are spaced. -/
theorem Machine.spaced_after (logging : Logging) (steps : List Step) :
    (Machine.after logging steps).host.Spaced :=
  spaced_invariant.run trivial logging (fun step _ => step.within_any) .initial

end ExecMemory
