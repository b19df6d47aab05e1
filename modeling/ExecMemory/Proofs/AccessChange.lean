import ExecMemory.Proofs.HostReplies

/-!
# Changing access page by page

The host changes the access to a range one page after the other and stops at the first page that is
not mapped. So a change of access that fails has still changed something, and what it has changed is
settled here for every page table, every range and every word of flags.

* The pages counted by `mappedCount` are those that everything is mapped up to
  (`Memory.mem_mappedCount_iff`).
* `Memory.Reached` are the pages that a change of access comes to, and `Host.protect_reply` and
  `Host.page?_protect` say what the host answers and what it does with them.
* Of the flags only the three lowest bits count (`Flags.bits_perms`).
* `protect_is_exact` puts this together for the library's change of access.
-/

namespace ExecMemory

/-! ## The mapped start of a range -/

namespace Memory

variable {memory : Memory} {first count n : Nat}

/-- Every page from `first` up to `n` is mapped. -/
def MappedUpTo (memory : Memory) (first n : Nat) : Prop :=
  ∀ m, first ≤ m → m ≤ n → (memory.page? m).isSome

/-- The counted pages are those of the span that everything is mapped up to. -/
theorem mem_mappedCount_iff :
    n ∈ Span.mk first (memory.mappedCount first count) ↔
      n ∈ Span.mk first count ∧ memory.MappedUpTo first n := by
  have atMost := memory.mappedCount_le first count
  rw [Span.mem_mk, Span.mem_mk]
  constructor
  · rintro ⟨low, high⟩
    refine ⟨by omega, fun m lowM highM => ?_⟩
    have counted : m < first + memory.mappedCount first count := by omega
    exact memory.isSome_page?_of_lt_mappedCount lowM counted
  · rintro ⟨⟨low, high⟩, mapped⟩
    refine ⟨low, Nat.lt_of_not_le fun behind => ?_⟩
    -- the walk stopped at a hole, and that hole is not behind `n`
    have hole := @page?_mappedCount memory first count (by omega)
    have found := mapped _ (Nat.le_add_right _ _) behind
    rw [hole] at found
    cases found

theorem mappedCount_eq_iff {span : Span} :
    memory.mappedCount span.first span.count = span.count ↔
      ∀ n ∈ span, (memory.page? n).isSome := by
  refine ⟨fun full n member => ?_, mappedCount_eq⟩
  rw [Span.mem_iff] at member
  exact memory.isSome_page?_of_lt_mappedCount member.1 (by rw [full]; exact member.2)

/-- The count stops at a hole. -/
theorem mappedCount_eq_of_hole {span : Span} (mapped : ∀ n ∈ span, (memory.page? n).isSome)
    (short : span.count < count) (hole : memory.page? span.stop = none) :
    memory.mappedCount span.first count = span.count := by
  rcases Nat.lt_trichotomy (memory.mappedCount span.first count) span.count with
    early | exact | late
  · have missing := @page?_mappedCount memory span.first count (by omega)
    have found := mapped _ ⟨Nat.le_add_right _ _, Nat.add_lt_add_left early _⟩
    rw [missing] at found
    cases found
  · exact exact
  · have found :=
      @isSome_page?_of_lt_mappedCount memory span.first count span.stop (Nat.le_add_right _ _)
      (Nat.add_lt_add_left late _)
    rw [hole] at found
    cases found

/-- A byte depends on the bytes of its page alone. -/
theorem byte?_congr {later : Memory} {address : Nat}
    (same : (later.page? (address / pageBytes)).map Page.bytes =
      (memory.page? (address / pageBytes)).map Page.bytes) :
    later.byte? address = memory.byte? address := by
  have chosen := congrArg (Option.map fun bytes => bytes (Fin.ofNat pageBytes address)) same
  rwa [Option.map_map, Option.map_map] at chosen

/-- The pages that a change of access to a range comes to: those of the range that everything is
mapped up to, and none if the range does not begin a page or wraps around. -/
structure Reached (memory : Memory) (address length : UInt64) (n : Nat) : Prop where
  aligned : address.toNat % pageBytes = 0
  forward : address < address + wholePages length
  inside : n ∈ Span.ofRange address length
  mapped : memory.MappedUpTo (address.toNat / pageBytes) n

/-- A change of access is granted if the range begins a page, does not wrap around and has no
hole. -/
structure Grants (memory : Memory) (address length : UInt64) : Prop where
  aligned : address.toNat % pageBytes = 0
  forward : address < address + wholePages length
  mapped : ∀ n ∈ Span.ofRange address length, (memory.page? n).isSome

/-- Where the change is granted, it comes to every page of the range. -/
theorem Grants.reached_iff {address length : UInt64} (granted : memory.Grants address length)
    (n : Nat) :
    memory.Reached address length n ↔ n ∈ Span.ofRange address length := by
  refine ⟨fun reached => reached.inside,
    fun inside => ⟨granted.aligned, granted.forward, inside, ?_⟩⟩
  intro m low high
  exact granted.mapped m ⟨low, Nat.lt_of_le_of_lt high inside.2⟩

end Memory

/-! ## The host -/

theorem isPageStart_iff {address : UInt64} :
    isPageStart address = true ↔ address.toNat % pageBytes = 0 :=
  beq_iff_eq

namespace Host

variable {host : Host} {address length : UInt64} {perms : Perms}

/-- A call of a kind that no fault is due for is served. -/
theorem serves_of_unspoiled {kind : CallKind} (unspoiled : (Plan.take kind host.plans).1 = none) :
    ∃ plans, ∀ request : Request, request.kind = kind →
      host.call request = { host with plans }.serve request := by
  rcases taken : Plan.take kind host.plans with ⟨fault, plans⟩
  rw [taken] at unspoiled
  cases unspoiled
  refine ⟨plans, fun request same => ?_⟩
  unfold Host.call
  rw [same, taken]

/-- What the host answers to a change of access. -/
theorem protect_reply (host : Host) (address length : UInt64) (perms : Perms) :
    host.memory.Grants address length ∧ (host.protect address length perms).1 = .ok 0 ∨
    ¬ host.memory.Grants address length ∧ (host.protect address length perms).1 =
      .error (if address.toNat % pageBytes = 0 then .outOfMemory else .invalidArgument) := by
  unfold Host.protect
  by_cases aligned : address.toNat % pageBytes = 0
  · rw [if_pos (isPageStart_iff.mpr aligned), if_pos aligned]
    by_cases forward : address < address + wholePages length
    · rw [if_pos forward]
      dsimp only
      by_cases full : ∀ n ∈ Span.ofRange address length, (host.memory.page? n).isSome
      · exact .inl ⟨⟨aligned, forward, full⟩, if_pos (Memory.mappedCount_eq_iff.mpr full)⟩
      · exact .inr ⟨fun granted => full granted.mapped,
          if_neg (mt Memory.mappedCount_eq_iff.mp full)⟩
    · rw [if_neg forward]
      exact .inr ⟨fun granted => forward granted.forward, rfl⟩
  · rw [if_neg (mt isPageStart_iff.mp aligned), if_neg aligned]
    exact .inr ⟨fun granted => aligned granted.aligned, rfl⟩

/-- What the host has done to the pages then, whatever it answers. -/
theorem page?_protect (host : Host) (address length : UInt64) (perms : Perms) (n : Nat) :
    (host.memory.Reached address length n →
      (host.protect address length perms).2.memory.page? n =
        (host.memory.page? n).map fun page => { page with perms }) ∧
    (¬ host.memory.Reached address length n →
      (host.protect address length perms).2.memory.page? n = host.memory.page? n) := by
  unfold Host.protect
  by_cases aligned : address.toNat % pageBytes = 0
  · rw [if_pos (isPageStart_iff.mpr aligned)]
    by_cases forward : address < address + wholePages length
    · rw [if_pos forward]
      dsimp only
      rw [Memory.page?_protectPages]
      constructor
      · intro reached
        exact if_pos (Memory.mem_mappedCount_iff.mpr ⟨reached.inside, reached.mapped⟩)
      · intro unreached
        refine if_neg fun counted => unreached ?_
        obtain ⟨inside, mapped⟩ := Memory.mem_mappedCount_iff.mp counted
        exact ⟨aligned, forward, inside, mapped⟩
    · rw [if_neg forward]
      exact ⟨fun reached => absurd reached.forward forward, fun _ => rfl⟩
  · rw [if_neg (mt isPageStart_iff.mp aligned)]
    exact ⟨fun reached => absurd reached.aligned aligned, fun _ => rfl⟩

end Host

/-! ## Flags -/

namespace Flags

/-- The higher bits of the flags are ignored. -/
theorem perms_and_seven (flags : Flags) : Flags.perms ⟨flags.bits &&& 7⟩ = flags.perms := by
  have spared : ∀ bit : UInt32, 7 &&& bit = bit →
      flags.bits &&& 7 &&& bit = flags.bits &&& bit := by
    intro bit low
    rw [UInt32.and_assoc, low]
  unfold perms contains
  rw [spared read.bits rfl, spared write.bits rfl, spared exec.bits rfl]

/-- The host's number for the permissions is that of the three lowest bits. -/
theorem bits_perms (flags : Flags) : flags.perms.bits = (flags.bits &&& 7).toNat := by
  have small : (flags.bits &&& 7).toNat < 8 := by
    rw [UInt32.toNat_and]
    exact Nat.lt_succ_of_le Nat.and_le_right
  have eight : ∀ number, number < 8 → (Flags.perms ⟨.ofNat number⟩).bits = number := by decide
  rw [← perms_and_seven]
  have known := eight _ small
  rwa [UInt32.ofNat_toNat] at known

end Flags

/-! ## The library's change of access -/

/-- Where no fault is due, the change of access passes the host's answer on and leaves what the host
leaves. -/
theorem Mapping.exec_protect_unspoiled (logging : Logging) {context : Context}
    {size length : UInt64} (address : UInt64) (flags : Flags)
    (rounds : mappingLength size context.host.pageSize = .ok (some length))
    (unspoiled : (Plan.take .protect context.host.plans).1 = none) :
    ∃ plans, let served := { context.host with plans }
      let ran := (Mapping.protect address size flags).exec logging context
      ran.2.host = (served.protect address length flags.perms).2 ∧
      (served.memory.Grants address length ∧ ran.1 = .ok () ∨
        ¬ served.memory.Grants address length ∧ ran.1 = .error (.error (.invalidRegion
          (if address.toNat % pageBytes = 0 then .outOfMemory else .invalidArgument)))) := by
  obtain ⟨plans, served⟩ := Host.serves_of_unspoiled unspoiled
  have called : context.host.call (.protect address length flags.perms) =
      { context.host with plans }.protect address length flags.perms := served _ rfl
  refine ⟨plans, ?_⟩
  rcases Host.protect_reply { context.host with plans } address length flags.perms with
    ⟨granted, reply⟩ | ⟨denied, reply⟩
  · rw [← called] at reply
    obtain ⟨_, _, ran⟩ :=
      @Mapping.ends_protect logging _ _ _ _ _ _ _ _ rfl rounds (Prod.ext reply rfl)
    dsimp only
    rw [ran, ← called]
    exact ⟨rfl, .inl ⟨granted, rfl⟩⟩
  · rw [← called] at reply
    obtain ⟨_, _, ran⟩ :=
      @Mapping.ends_protect_refused logging _ _ _ _ _ _ _ _ rfl rounds (Prod.ext reply rfl)
    dsimp only
    rw [ran, ← called]
    refine ⟨rfl, .inr ⟨denied, ?_⟩⟩
    by_cases aligned : address.toNat % pageBytes = 0
    · simp only [aligned]
      rfl
    · simp only [aligned]
      rfl

/-- **A change of access is exact.** Take any host, whatever it has mapped, a size that has a length
at the page size reported now, and no fault that is due for the call. Whatever the address and the
flags:

* the change succeeds if and only if the address begins a page, the range does not wrap around to
  its start or before it, and every page of the range is mapped;
* otherwise the region is invalid, because of the argument if the address does not begin a page, and
  because of memory if it does;
* the pages of the range up to the first hole have the permissions of the three lowest flag bits
  then, none do if the range does not begin a page or wraps around, and every other page is as it
  was; after a success these are all pages of the range;
* the same pages are mapped as before, and every byte is what it was. -/
theorem protect_is_exact (logging : Logging) {context : Context} {size length : UInt64}
    (address : UInt64) (flags : Flags)
    (rounds : mappingLength size context.host.pageSize = .ok (some length))
    (unspoiled : (Plan.take .protect context.host.plans).1 = none) :
    let ran := (Mapping.protect address size flags).exec logging context
    let before := context.host.memory
    let after := ran.2.host.memory
    (ran.1 = .ok () ↔ address.toNat % pageBytes = 0 ∧ address < address + wholePages length ∧
      ∀ n ∈ Span.ofRange address length, (before.page? n).isSome) ∧
    (ran.1 ≠ .ok () → ran.1 = .error (.error (.invalidRegion
      (if address.toNat % pageBytes = 0 then .outOfMemory else .invalidArgument)))) ∧
    (∃ perms : Perms, perms.bits = (flags.bits &&& 7).toNat ∧ ∀ n,
      (before.Reached address length n →
        after.page? n = (before.page? n).map fun page => { page with perms }) ∧
      (¬ before.Reached address length n → after.page? n = before.page? n)) ∧
    (ran.1 = .ok () → ∀ n, before.Reached address length n ↔ n ∈ Span.ofRange address length) ∧
    (∀ n, (after.page? n).isSome = (before.page? n).isSome) ∧
    ∀ byteAddress, after.byte? byteAddress = before.byte? byteAddress := by
  intro ran before after
  obtain ⟨plans, host, answer⟩ :=
    Mapping.exec_protect_unspoiled logging address flags rounds unspoiled
  have pages := Host.page?_protect { context.host with plans } address length flags.perms
  rw [← host] at pages
  have bytes : ∀ n, (after.page? n).map Page.bytes = (before.page? n).map Page.bytes := by
    intro n
    by_cases reached : before.Reached address length n
    · rw [(pages n).1 reached, Option.map_map]
      rfl
    · rw [(pages n).2 reached]
  refine ⟨?_, ?_, ⟨flags.perms, flags.bits_perms, pages⟩, ?_, ?_,
    fun _ => Memory.byte?_congr (bytes _)⟩
  · rcases answer with ⟨granted, succeeded⟩ | ⟨denied, failed⟩
    · exact ⟨fun _ => ⟨granted.aligned, granted.forward, granted.mapped⟩, fun _ => succeeded⟩
    · constructor
      · intro succeeded
        cases failed.symm.trans succeeded
      · rintro ⟨aligned, forward, mapped⟩
        exact absurd ⟨aligned, forward, mapped⟩ denied
  · intro failed
    rcases answer with ⟨_, succeeded⟩ | ⟨_, number⟩
    · exact absurd succeeded failed
    · exact number
  · intro succeeded
    rcases answer with ⟨granted, _⟩ | ⟨_, failed⟩
    · exact granted.reached_iff
    · cases failed.symm.trans succeeded
  · intro n
    rw [← Option.isSome_map (f := Page.bytes), bytes n, Option.isSome_map]

/-- Two mapped pages with a hole between them. -/
def holedContext : Context :=
  .start { Host.initial with
    memory := (Memory.empty.mapPages ⟨16, 3⟩ .readWrite).unmapPages ⟨17, 1⟩ } .success

theorem protect_is_exact_holedContext :
    let ran := (Mapping.protect 0x10000 0x2001 ⟨0xfffffff9⟩).exec .silent holedContext
    let after := ran.2.host.memory
    mappingLength 0x2001 holedContext.host.pageSize = .ok (some 0x3000) ∧
    (Plan.take .protect holedContext.host.plans).1 = none ∧
    ran.1 = .error (.error (.invalidRegion .outOfMemory)) ∧
    (∃ perms : Perms, perms.bits = 1 ∧ after.page? 16 = some (.zeroed perms)) ∧
    after.page? 17 = none ∧ after.page? 18 = some (.zeroed .readWrite) := by
  intro ran after
  have rounds : mappingLength 0x2001 holedContext.host.pageSize = .ok (some 0x3000) := rfl
  have hole : holedContext.host.memory.page? 17 = none := rfl
  obtain ⟨granted, failed, ⟨perms, bits, pages⟩, -⟩ :=
    protect_is_exact .silent 0x10000 ⟨0xfffffff9⟩ rounds rfl
  have unreached : ∀ n, 17 ≤ n → ¬ holedContext.host.memory.Reached 0x10000 0x3000 n := by
    intro n behind reached
    have found := reached.mapped 17 (by decide) behind
    rw [hole] at found
    cases found
  have reached : holedContext.host.memory.Reached 0x10000 0x3000 16 := by
    refine ⟨by decide, by decide, by decide, fun m low high => ?_⟩
    obtain rfl : m = 16 := Nat.le_antisymm high low
    rfl
  refine ⟨rounds, rfl, failed fun succeeded => ?_, ⟨perms, bits, (pages 16).1 reached⟩,
    (pages 17).2 (unreached 17 (by decide)), (pages 18).2 (unreached 18 (by decide))⟩
  have found := (granted.mp succeeded).2.2 17 (by decide)
  rw [hole] at found
  cases found

end ExecMemory
