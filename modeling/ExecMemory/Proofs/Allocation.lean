import ExecMemory.Proofs.InterfaceAgreement
import ExecMemory.Proofs.PageMultiples
import ExecMemory.Proofs.PageSizeDrift

/-!
# Fresh memory

An allocation adds pages that were not mapped, and nothing else happens to memory; or it fails, and
then nothing happens at all. What a script did before plays no part: strays among its releases and
changes of access, other page sizes, refused calls.

* The pages are fresh because everything the host ever handed out lies before the cursor
  (`Host.Spaced`).
* The cursor stays near the address limit while mappings end below it (`Machine.ready_after`), so
  whether an allocation succeeds depends on its length alone.
* `Mapping.alloc_cases` lists the two ways in which it ends.
-/

namespace ExecMemory

/-! ## The cursor -/

/-- As long as everything that was handed out ends below the address limit, the cursor is not far
behind it. -/
theorem cursor_invariant : HostInvariant (fun _ => True) fun host => host.cursor % placement = 0 ∧
    (host.BelowLimit → mapBase + host.cursor ≤ addressLimit.toNat + 2 * placement) := by
  refine .of_placement (fun _ _ _ holds => holds) ?_
  rintro host length perms fits room ⟨aligned, bounded⟩
  refine ⟨?_, fun below => ?_⟩
  · show (host.cursor + Host.stride length) % placement = 0
    unfold Host.stride placement at *
    omega
  · have before : host.BelowLimit := fun span member => below span (List.mem_append_left _ member)
    -- plans play no part in where a mapping goes
    have ready : { host with plans := [] }.Ready := ⟨nofun, aligned, bounded before⟩
    obtain ⟨_, later, _⟩ := @Host.Ready.mapped _ length perms ready fits below
    exact later.cursor_le

/-- After any script, a host without faults that change lengths is ready to map. -/
theorem Machine.ready_after (logging : Logging) (script : List Step)
    (plain : (after logging script).host.Plain) (below : (after logging script).host.BelowLimit) :
    (after logging script).host.Ready := by
  have start : initial.host.cursor % placement = 0 ∧ (initial.host.BelowLimit →
      mapBase + initial.host.cursor ≤ addressLimit.toNat + 2 * placement) :=
        ⟨rfl, fun _ => by decide⟩
  obtain ⟨aligned, bounded⟩ :=
    cursor_invariant.run trivial logging (fun step (_ : step ∈ script) => step.within_any) start
  exact ⟨plain, aligned, bounded below⟩

/-! ## How an allocation ends -/

/-- An allocation maps its length at the cursor, or it fails and leaves memory as it was. Without a
fault that is due for it, it fails only for want of addresses. -/
theorem Mapping.alloc_cases (logging : Logging) {context : Context} (size : UInt64)
    (plain : context.host.Plain) (power : context.host.pageSize.toNat.isPowerOfTwo) :
    let ran := (alloc size).exec logging context
    (∃ length plans, mappingLength size context.host.pageSize = .ok (some length) ∧
      Host.Addressable length ∧ context.host.HasRoom length ∧
      Plan.take .map context.host.plans = (none, plans) ∧
      ran.1 = .ok (.ofNat (mapBase + context.host.cursor)) ∧
      ran.2.host = { context.host with plans }.mapped length .readWrite) ∨
    (∃ error, ran.1 = .error (.error error)) ∧ ran.2.host.memory = context.host.memory ∧
      ((Plan.take .map context.host.plans).1 = none →
        ∀ length, mappingLength size context.host.pageSize = .ok (some length) →
          ¬ (Host.Addressable length ∧ context.host.HasRoom length)) := by
  intro ran
  rcases mappingLength_cases size power with overflows | ⟨length, rounds⟩
  · obtain ⟨_, _, stopped⟩ : Op.Ends (alloc size) logging context _ _ _ :=
      (ends_length_tooLarge rfl overflows).bind_error
    right
    rw [show ran = _ from stopped]
    refine ⟨⟨_, rfl⟩, rfl, fun _ length rounds => ?_⟩
    cases overflows.symm.trans rounds
  · rcases called : context.host.call (.map length .readWrite) with ⟨reply, later⟩
    rcases plain.reaction called with @⟨plans, _, _, taken, answer⟩ | taken | taken
    · change Host.map _ length .readWrite = _ at answer
      rw [Host.map_eq] at answer
      split at answer
      · rename_i granted
        cases answer
        have notNull : UInt64.ofNat (mapBase + context.host.cursor) ≠ 0 := by
          apply @Host.map_ne_null { context.host with plans } length .readWrite
          rw [Host.map_eq, if_pos granted]
        obtain ⟨_, _, succeeded⟩ := @ends_alloc logging context _ _ _ _ _ rfl rounds called notNull
        left
        rw [show ran = _ from succeeded]
        exact ⟨length, plans, rounds, granted.1, granted.2, taken, rfl, rfl⟩
      · rename_i unfit
        cases answer
        obtain ⟨_, _, stopped⟩ := @ends_alloc_refused logging context _ _ _ _ _ rfl rounds called
        right
        rw [show ran = _ from stopped]
        refine ⟨⟨_, rfl⟩, rfl, fun _ other roundsOther => ?_⟩
        cases rounds.symm.trans roundsOther
        exact unfit
    · obtain ⟨_, _, stopped⟩ := @ends_alloc_refused logging context _ _ _ _ _ rfl rounds called
      right
      rw [show ran = _ from stopped]
      refine ⟨⟨_, rfl⟩, rfl, fun clear => ?_⟩
      rw [show Plan.take .map _ = _ from taken] at clear
      cases clear
    · obtain ⟨_, _, _, stopped⟩ := ends_alloc_null logging rfl rounds called
      right
      rw [show ran = _ from stopped]
      refine ⟨⟨_, rfl⟩, rfl, fun clear => ?_⟩
      rw [show Plan.take .map _ = _ from taken] at clear
      cases clear

/-! ## What there are addresses for -/

/-- The size has a length for which there are addresses. -/
def Allocatable (size page : UInt64) : Prop :=
  ∃ length, mappingLength size page = .ok (some length) ∧ Host.Addressable length

/-- Mappings are placed at multiples of every page size that is not larger than their distance. -/
theorem Host.Ready.dvd_next {host : Host} (ready : host.Ready) {page : UInt64}
    (power : page.toNat.isPowerOfTwo) (small : page.toNat ≤ 2 ^ 20) :
    page.toNat ∣ (UInt64.ofNat (mapBase + host.cursor)).toNat := by
  have aligned : (2 : Nat) ^ 20 ∣ host.cursor := Nat.dvd_of_mod_eq_zero ready.cursor_mod
  have base : (2 : Nat) ^ 20 ∣ mapBase := by decide
  obtain ⟨k, value⟩ := power
  rw [ready.toNat_next, value]
  rw [value] at small
  have exponent : k ≤ 20 := (Nat.pow_le_pow_iff_right (by decide)).mp small
  exact Nat.dvd_trans (Nat.pow_dvd_pow 2 exponent) (Nat.dvd_add base aligned)

/-- A size with a length is at least a page away from the end of all numbers. -/
theorem Allocatable.size_le {size page : UInt64} (power : page.toNat.isPowerOfTwo)
    (allocatable : Allocatable size page) : size.toNat ≤ UInt64.size - page.toNat := by
  obtain ⟨length, rounds, _⟩ := allocatable
  by_contra large
  rw [(mappingLength_eq_none_iff size power).mpr (Nat.lt_of_not_le large)] at rounds
  cases rounds

/-- One page can be allocated if it is not larger than half of all addresses. -/
theorem allocatable_zero {page : UInt64} (power : page.toNat.isPowerOfTwo)
    (small : page.toNat ≤ 2 ^ 46) :
    Allocatable 0 page := by
  have nonempty :=
    (wholePages_of_small (pos_of_isPowerOfTwo power) (toNat_le_of_isPowerOfTwo power)).1
  have atMost := leastMultiple_le page.toNat pageBytes
  refine ⟨page, (mappingLength_eq_page_iff power).mpr (Nat.zero_le _), nonempty, ?_⟩
  rw [UInt64.le_iff_toNat_le, toNat_addressLimit, toNat_wholePages nonempty]
  unfold pageBytes at *
  omega

/-! ## The whole of an allocation -/

/-- **An allocation is fresh, exact and all or nothing.** Take the host that any script leaves, as
long as no fault is waiting that changes a length and everything that was handed out ends below the
address limit. The page size it reports is a power of two.

* If the allocation succeeds, its address is not null; it begins a page of the host, and a page of
  the reported size if that is not above 2^20. None of the pages of its length was mapped before.
  Now they are, readable, writable and full of zeros, and every other page is as it was.
* If it does not succeed, memory is as it was.
* If no fault is due for it, it succeeds exactly if the size is at least a page away from the end of
  all numbers and its length in whole pages, modulo the word size, is neither zero nor above the
  address limit. So a request for no bytes succeeds for every page size up to 2^46. -/
theorem alloc_is_exact (logging : Logging) {script : List Step} {context : Context} (size : UInt64)
    (reached : context.host = (Machine.after logging script).host) (plain : context.host.Plain)
    (below : context.host.BelowLimit) (power : context.host.pageSize.toNat.isPowerOfTwo) :
    let page := context.host.pageSize
    let ran := (Mapping.alloc size).exec logging context
    let before := context.host.memory
    let after := ran.2.host.memory
    (∀ address, ran.1 = .ok address →
      address ≠ 0 ∧ pageBytes ∣ address.toNat ∧ (page.toNat ≤ 2 ^ 20 → page.toNat ∣ address.toNat) ∧
      ∃ length, mappingLength size page = .ok (some length) ∧ ∀ n,
        (n ∈ Span.ofRange address length →
          before.page? n = none ∧ after.page? n = some (.zeroed .readWrite)) ∧
        (n ∉ Span.ofRange address length → after.page? n = before.page? n)) ∧
    (∀ stop, ran.1 = .error stop → after = before) ∧
    ((Plan.take .map context.host.plans).1 = none →
      ((∃ address, ran.1 = .ok address) ↔ size.toNat ≤ UInt64.size - page.toNat ∧
        ∃ length, mappingLength size page = .ok (some length) ∧
          wholePages length ≠ 0 ∧ wholePages length ≤ addressLimit) ∧
      (size = 0 → page.toNat ≤ 2 ^ 46 → ∃ address, ran.1 = .ok address)) := by
  intro page ran before after
  have spaced := Machine.spaced_after logging script
  have ready := Machine.ready_after logging script (reached ▸ plain) (reached ▸ below)
  rw [← reached] at spaced ready
  rcases Mapping.alloc_cases logging size plain power with
    ⟨length, plans, rounds, fits, room, _, succeeded, left⟩ | ⟨⟨error, failed⟩, kept, refused⟩
  · refine ⟨fun address answered => ?_, fun stop stopped => ?_,
      fun _ => ⟨?_, fun _ _ => ⟨_, succeeded⟩⟩⟩
    · cases succeeded.symm.trans answered
      refine ⟨?_, ?_, ready.dvd_next power, length, rounds,
        fun n => ⟨fun member => ?_, fun outside => ?_⟩⟩
      · apply @Host.map_ne_null context.host length .readWrite
        rw [Host.map_eq, if_pos ⟨fits, room⟩]
      · exact Nat.dvd_of_mod_eq_zero (ready.pageRange fits).aligned
      · refine ⟨spaced.page?_next fits room member, ?_⟩
        rw [show after = _ from congrArg Host.memory left]
        exact if_pos member
      · rw [show after = _ from congrArg Host.memory left]
        exact if_neg outside
    · cases succeeded.symm.trans stopped
    · have allocatable : Allocatable size page := ⟨length, rounds, fits⟩
      exact ⟨fun _ => ⟨allocatable.size_le power, allocatable⟩, fun _ => ⟨_, succeeded⟩⟩
  · have unfit : (Plan.take .map context.host.plans).1 = none → ¬ Allocatable size page := by
      rintro clear ⟨length, rounds, fits⟩
      exact refused clear length rounds ⟨fits, ready.hasRoom fits⟩
    refine ⟨fun address answered => ?_, fun _ _ => kept, fun clear => ⟨⟨?_, ?_⟩, ?_⟩⟩
    · cases failed.symm.trans answered
    · rintro ⟨address, answered⟩
      cases failed.symm.trans answered
    · rintro ⟨_, allocatable⟩
      exact absurd allocatable (unfit clear)
    · rintro rfl small
      exact absurd (allocatable_zero power small) (unfit clear)

/-- A mapping that is gone again, a refusal to come, and a page size of a megabyte. -/
def eventfulPast : List Step := [
  .library (.mapping (.alloc 0 5000)) false,
  .library (.mapping (.protect (.slot 0 4096) 20000 .readExec)) false,
  .host (.setPageSize 0x100000),
  .library (.mapping (.release (.slot 0 0) 5000)) true,
  .host (.plan ⟨0, .refuse .protect .accessDenied⟩)]

theorem alloc_is_exact_eventfulPast :
    let context := Context.start (Machine.after .silent eventfulPast).host .success
    let ran := (Mapping.alloc 0x100001).exec .silent context
    context.host.Plain ∧ context.host.BelowLimit ∧ context.host.pageSize = 0x100000 ∧
    (Plan.take .map context.host.plans).1 = none ∧ ran.1 = .ok 0x10000200000 ∧
    (0x100000 : UInt64).toNat ∣ (0x10000200000 : UInt64).toNat ∧
    context.host.memory.page? 0x100003ff = none ∧
    ran.2.host.memory.page? 0x100003ff = some (.zeroed .readWrite) ∧
    ran.2.host.memory.page? 0x10000400 = context.host.memory.page? 0x10000400 := by
  intro context ran
  have plain : context.host.Plain := by
    unfold Host.Plain
    decide +kernel
  have below : context.host.BelowLimit := by
    unfold Host.BelowLimit
    decide +kernel
  have page : context.host.pageSize = 0x100000 := by decide +kernel
  have power : context.host.pageSize.toNat.isPowerOfTwo := by
    rw [page]
    exact ⟨20, rfl⟩
  have answered : ran.1 = .ok 0x10000200000 := by decide +kernel
  obtain ⟨granted, _⟩ := @alloc_is_exact .silent eventfulPast context 0x100001 rfl plain below power
  obtain ⟨_, _, placed, length, rounds, pages⟩ := granted _ answered
  rw [page] at placed rounds
  have two : mappingLength 0x100001 0x100000 = .ok (some 0x200000) := by decide +kernel
  cases two.symm.trans rounds
  obtain ⟨unmapped, zeroed⟩ := (pages 0x100003ff).1 (by decide +kernel)
  exact ⟨plain, below, page, by decide +kernel, answered, placed (by decide), unmapped, zeroed,
    (pages 0x10000400).2 (by decide +kernel)⟩

end ExecMemory
