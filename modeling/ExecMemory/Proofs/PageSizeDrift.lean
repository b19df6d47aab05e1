import ExecMemory.Proofs.AccessChange
import ExecMemory.Proofs.Placement
import Mathlib.Algebra.Group.Nat.Defs

/-!
# Regions that outlive a page size

A region remembers the size it was requested with and not how many bytes were mapped for it, so each
operation rounds the size anew. When the page size has changed since the region was created, the
range that the operation asks for is shorter or longer than the memory of the region. This module
settles what happens then.

* `Machine.Created` says that a script created a region, and under which page size.
* `Drifted` compares the memory of a region with the range that its size has now
  (`Machine.Created.drifted`).
* `make_executable_under_drift` and `release_under_drift` say what becomes of the pages.
-/

namespace ExecMemory

/-! ## Lengths under another page size -/

theorem toNat_le_of_isPowerOfTwo {page : UInt64} (power : page.toNat.isPowerOfTwo) :
    page.toNat ≤ 2 ^ 63 := by
  obtain ⟨k, value⟩ := power
  have word := page.toNat_lt
  rw [value] at word ⊢
  have small : k < 64 := (Nat.pow_lt_pow_iff_right (by decide)).mp word
  exact Nat.pow_le_pow_right (by decide) (by omega)

/-- A size below the address limit has a length under every page size, and the length is not near
the end of the address space. -/
theorem rounds_of_small {size page : UInt64} (power : page.toNat.isPowerOfTwo)
    (small : size.toNat ≤ addressLimit.toNat) :
    mappingLength size page = .ok (some (mappedBytes size page)) ∧
      0 < (mappedBytes size page).toNat ∧ (mappedBytes size page).toNat ≤ 2 ^ 63 := by
  have positive := pos_of_isPowerOfTwo power
  have half := toNat_le_of_isPowerOfTwo power
  rw [toNat_addressLimit] at small
  have rounded : leastMultiple size.toNat page.toNat ≤ 2 ^ 63 := by
    by_cases large : size.toNat ≤ page.toNat
    · have once : (size.toNat + (page.toNat - 1)) / page.toNat ≤ 1 := by
        rw [← Nat.lt_succ_iff, Nat.div_lt_iff_lt_mul positive]
        omega
      calc leastMultiple size.toNat page.toNat ≤ 1 * page.toNat := Nat.mul_le_mul_right _ once
        _ ≤ 2 ^ 63 := by omega
    · have bound := leastMultiple_le size.toNat page.toNat
      omega
  have fits : leastMultiple size.toNat page.toNat < UInt64.size :=
    Nat.lt_of_le_of_lt rounded (by decide)
  rw [mappingLength_eq size power, if_pos fits, toNat_mappedBytes fits]
  exact ⟨rfl, by omega, by omega⟩

theorem wholePages_of_small {length : UInt64} (positive : 0 < length.toNat)
    (half : length.toNat ≤ 2 ^ 63) :
    wholePages length ≠ 0 ∧ (wholePages length).toNat ≤ 2 ^ 63 := by
  have value : (wholePages length).toNat =
      (length.toNat + (pageBytes - 1)) / pageBytes * pageBytes % 2 ^ 64 := UInt64.toNat_ofNat'
  refine ⟨fun zero => ?_, ?_⟩
  · rw [zero] at value
    have none : (0 : UInt64).toNat = 0 := rfl
    unfold pageBytes at value
    omega
  · unfold pageBytes at value
    omega

/-- Ranges from one address on begin together. -/
theorem Span.first_ofRange_eq (base short long : UInt64) :
    (Span.ofRange base short).first = (Span.ofRange base long).first := rfl

/-- Of two such ranges, the one of fewer pages lies in the other. -/
theorem Span.ofRange_mono {base short long : UInt64} (le : wholePages short ≤ wholePages long)
    {n : Nat} (member : n ∈ Span.ofRange base short) : n ∈ Span.ofRange base long := by
  have counts := Nat.div_le_div_right (c := pageBytes) (UInt64.le_iff_toNat_le.mp le)
  exact ⟨member.1, Nat.lt_of_lt_of_le member.2 (Nat.add_le_add_left counts _)⟩

theorem PageRange.count_pos {base length : UInt64} (range : PageRange base length) :
    0 < (Span.ofRange base length).count := by
  have positive := range.wholePages_pos
  have whole := wholePages_mod range.nonempty
  exact Nat.div_pos (Nat.le_of_dvd positive (Nat.dvd_of_mod_eq_zero whole)) (by decide)

theorem PageRange.count_le_iff {base short long : UInt64} (range : PageRange base short)
    (other : PageRange base long) :
    (Span.ofRange base short).count ≤ (Span.ofRange base long).count ↔
      wholePages short ≤ wholePages long := by
  have whole := wholePages_mod range.nonempty
  have wholeOther := wholePages_mod other.nonempty
  rw [UInt64.le_iff_toNat_le]
  unfold Span.ofRange
  unfold pageBytes at *
  dsimp only
  omega

/-! ## Regions and their page size -/

/-- The script created a region of `size` bytes at `base` in the slot, at a moment when the page
size was `page` and no fault was planned that changes a length. -/
inductive Machine.Created (logging : Logging) (id : SlotId) (size page base : UInt64) :
    List Step → Prop
  | intro {before later : List Step} {call : RegionCall} {inThread : Bool}
      (creates : call.newSize? = some size) (pageSize : (after logging before).host.pageSize = page)
      (plain : (after logging before).host.Plain)
      (made : ((after logging before).step logging (.library (.region id call) inThread)).1.result =
        .ok (.address base)) :
      Created logging id size page base (before ++ .library (.region id call) inThread :: later)

theorem Machine.after_append_cons (logging : Logging) (before later : List Step) (step : Step) :
    after logging (before ++ step :: later) =
      (((after logging before).step logging step).2.run logging later).2 := by
  unfold after
  rw [run_append]
  rfl

/-- A span that was handed out stays on record. -/
theorem Machine.placed_run (logging : Logging) {machine : Machine} {span : Span}
    (placed : span ∈ machine.host.placed) (steps : List Step) :
    span ∈ (machine.run logging steps).2.host.placed :=
  (placed_invariant span).run trivial logging (fun step _ => step.within_any) placed

/-- A plain host that grants a mapping puts it on record. -/
theorem Host.Plain.placed_call_map {host later : Host} {length base : UInt64} {perms : Perms}
    (plain : host.Plain) (aligned : host.cursor % placement = 0)
    (called : host.call (.map length perms) = (.ok base, later)) (notNull : base ≠ 0) :
    PageRange base length ∧ Span.ofRange base length ∈ later.placed := by
  obtain ⟨rfl, fits, plans, _, rfl⟩ := plain.call_map called notNull
  exact ⟨Host.pageRange_of_cursor aligned fits, List.mem_append_right _ List.mem_cons_self⟩

namespace Machine.Created

variable {logging : Logging} {id : SlotId} {size page base : UInt64} {script : List Step}

/-- The memory of a region is on record, and it is as long as the page size of its creation says. -/
theorem placed (created : Created logging id size page base script)
    (power : page.toNat.isPowerOfTwo) :
    ∃ length, mappingLength size page = .ok (some length) ∧ PageRange base length ∧
      Span.ofRange base length ∈ (after logging script).host.placed := by
  cases created with
  | @intro before later call inThread creates pageSize plain made =>
      subst pageSize
      rw [after_append_cons]
      obtain ⟨calls, host, slots, steps, turn⟩ := created_turn logging power creates made
      have aligned := cursor_after logging before
      rw [← steps.host_eq] at turn
      cases call with
      | allocate size =>
          cases creates
          cases turn with
          | @allocated _ length _ _ empty rounds called notNull =>
              obtain ⟨range, placed⟩ := plain.placed_call_map aligned called notNull
              exact ⟨length, rounds, range, placed_run logging placed later⟩
      | ofCode code =>
          cases creates
          cases turn with
          | @compiled _ length _ _ _ _ _ empty rounds called notNull fits written changed =>
              obtain ⟨range, placed⟩ := plain.placed_call_map aligned called notNull
              have still := (Host.call_extends changed).placed _ placed
              exact ⟨length, rounds, range, placed_run logging still later⟩
      | _ => cases creates

end Machine.Created

/-- The memory of a region, mapped under the page size `page`, on a host that reports a page size of
its own now. -/
structure Drifted (host : Host) (base size page : UInt64) : Prop where
  spaced : host.Spaced
  placed : Span.ofRange base (mappedBytes size page) ∈ host.placed
  rounds : mappingLength size page = .ok (some (mappedBytes size page))
  covers : size.toNat ≤ (mappedBytes size page).toNat
  lies : Lies base (mappedBytes size page)
  roundsNow : mappingLength size host.pageSize = .ok (some (mappedBytes size host.pageSize))
  rangeNow : PageRange base (mappedBytes size host.pageSize)
  forward : base < base + wholePages (mappedBytes size host.pageSize)

theorem Machine.Created.drifted {logging : Logging} {id : SlotId} {size page base : UInt64}
    {script : List Step} (created : Created logging id size page base script)
    (power : page.toNat.isPowerOfTwo)
    (below : base.toNat + (wholePages (mappedBytes size page)).toNat ≤ addressLimit.toNat)
    (powerNow : (after logging script).host.pageSize.toNat.isPowerOfTwo) :
    Drifted (after logging script).host base size page := by
  obtain ⟨length, rounds, range, placed⟩ := created.placed power
  obtain ⟨rfl, covers⟩ := mappingLength_eq_some power rounds
  have whole := le_wholePages range.nonempty
  obtain ⟨roundsNow, positive, half⟩ :=
    rounds_of_small powerNow (by omega : size.toNat ≤ addressLimit.toNat)
  obtain ⟨nonempty, small⟩ := wholePages_of_small positive half
  have rangeNow : PageRange base (mappedBytes size (after logging script).host.pageSize) :=
    ⟨range.aligned, nonempty⟩
  refine ⟨spaced_after logging script, placed, rounds, covers, ⟨range, below⟩, roundsNow, rangeNow,
    ?_⟩
  have ahead := rangeNow.wholePages_pos
  rw [toNat_addressLimit] at below
  rw [UInt64.lt_iff_toNat_lt, UInt64.toNat_add]
  omega

namespace Drifted

variable {host : Host} {base size page : UInt64} {perms : Perms}
  (drifted : Drifted host base size page)
include drifted

theorem withPlans (plans : List Plan) : Drifted { host with plans } base size page :=
  { drifted with spaced := drifted.spaced.withPlans plans host.pageSize }

/-- A change of access to a range within the memory of the region succeeds. -/
theorem protect_within
    (shorter : wholePages (mappedBytes size host.pageSize) ≤ wholePages (mappedBytes size page))
    (mapped : ∀ n ∈ Span.ofRange base (mappedBytes size page), (host.memory.page? n).isSome) :
    host.protect base (mappedBytes size host.pageSize) perms = (.ok 0, { host with
      memory :=
        host.memory.protectPages (.ofRange base (mappedBytes size host.pageSize)) perms }) := by
  have fewer := UInt64.le_iff_toNat_le.mp shorter
  have lies : Lies base (mappedBytes size host.pageSize) :=
    ⟨drifted.rangeNow, Nat.le_trans (Nat.add_le_add_left fewer _) drifted.lies.below⟩
  exact lies.protect host fun n member => mapped n (Span.ofRange_mono shorter member)

/-- A change of access to a range beyond the memory of the region comes to the region's pages and
fails at the gap behind them. -/
theorem protect_beyond
    (longer : wholePages (mappedBytes size page) < wholePages (mappedBytes size host.pageSize))
    (mapped : ∀ n ∈ Span.ofRange base (mappedBytes size page), (host.memory.page? n).isSome) :
    host.protect base (mappedBytes size host.pageSize) perms = (.error .outOfMemory, { host with
      memory := host.memory.protectPages (.ofRange base (mappedBytes size page)) perms }) := by
  have short : (Span.ofRange base (mappedBytes size page)).count <
      (Span.ofRange base (mappedBytes size host.pageSize)).count := by
    rw [← Nat.not_le, drifted.rangeNow.count_le_iff drifted.lies.toPageRange, UInt64.not_le]
    exact longer
  have counted :=
    Memory.mappedCount_eq_of_hole mapped short (drifted.spaced.page?_stop drifted.placed)
  unfold Host.protect
  rw [if_pos (isPageStart_iff.mpr drifted.rangeNow.aligned), if_pos drifted.forward]
  dsimp only
  change host.memory.mappedCount (Span.ofRange base (mappedBytes size host.pageSize)).first _ =
      _ at counted
  rw [counted, if_neg (Nat.ne_of_lt short)]
  rfl

/-- The range of now is taken back as a whole if it ends below the address limit, and not at all if
not. -/
theorem unmap_eq :
    host.unmap base (mappedBytes size host.pageSize) =
      if mappedBytes size host.pageSize ≤ addressLimit - base then
        (.ok 0,
          { host with memory :=
            host.memory.unmapPages (.ofRange base (mappedBytes size host.pageSize)) })
      else (.error .invalidArgument, host) := by
  have start : base ≤ addressLimit := by
    rw [UInt64.le_iff_toNat_le]
    exact Nat.le_trans (Nat.le_add_right _ _) drifted.lies.below
  unfold Host.unmap
  by_cases ends : mappedBytes size host.pageSize ≤ addressLimit - base
  · have aligned := isPageStart_iff.mpr drifted.rangeNow.aligned
    rw [if_pos ends, if_pos ⟨aligned, start, ends, drifted.rangeNow.nonempty⟩]
  · rw [if_neg ends, if_neg fun granted => ends granted.2.2.1]

/-- The range of now covers the memory of the region exactly if it is no shorter. -/
theorem covers_iff :
    (∀ n ∈ Span.ofRange base (mappedBytes size page),
      n ∈ Span.ofRange base (mappedBytes size host.pageSize)) ↔
      wholePages (mappedBytes size page) ≤ wholePages (mappedBytes size host.pageSize) := by
  rw [Span.subset_iff (Span.first_ofRange_eq _ _ _) drifted.lies.count_pos]
  exact drifted.lies.count_le_iff drifted.rangeNow

end Drifted

/-! ## Making a region executable -/

namespace Machine

variable {machine : Machine} {id : SlotId} {region : Region} {length : UInt64} {later : Host}

theorem steps_makeExecutable (logging : Logging) (inThread : Bool) {value : UInt64}
    (held : machine.slots.get? id = some (.region region)) (writable : region.state = .writable)
    (rounds : mappingLength region.size machine.host.pageSize = .ok (some length))
    (called : machine.host.call (.protect region.base length .readExec) = (.ok value, later)) :
    machine.Steps logging (.library (.region id .makeExecutable) inThread) (.ok .unit)
      [⟨.protect region.base length .readExec, .ok value⟩] later
      (machine.slots.insert id (.region { region with state := .executable })) := by
  obtain ⟨_, _, ran⟩ :=
    @ends_replace logging (.start machine.host _) _ _ _ _ _ Region.makeExecutable _ held
    (Region.ends_makeExecutable rfl writable rounds called)
  exact steps_of_exec (.library (.region id .makeExecutable) inThread) ran rfl

theorem steps_makeExecutable_refused (logging : Logging) (inThread : Bool) {errno : Errno}
    (held : machine.slots.get? id = some (.region region)) (writable : region.state = .writable)
    (rounds : mappingLength region.size machine.host.pageSize = .ok (some length))
    (called : machine.host.call (.protect region.base length .readExec) = (.error errno, later)) :
    machine.Steps logging (.library (.region id .makeExecutable) inThread)
      (.error (.stop (.error (Mapping.classify .protect errno))))
      [⟨.protect region.base length .readExec, .error errno⟩] later machine.slots := by
  obtain ⟨_, _, ran⟩ := @ends_replace_error logging (.start machine.host _) _ _ _ _ _
    Region.makeExecutable _ held (Region.ends_makeExecutable_refused rfl writable rounds called)
  exact steps_of_exec (.library (.region id .makeExecutable) inThread) ran rfl

/-- A write to a page that is not writable passes the checks of the region and faults. -/
theorem step_write_faults (logging : Logging) (inThread : Bool) {offset : UInt64}
    {bytes : List UInt8} {perms : Perms} (held : machine.slots.get? id = some (.region region))
    (writable : region.state = .writable) (nonempty : bytes ≠ [])
    (inside : offset.toNat + bytes.length ≤ region.size.toNat)
    (mapped : machine.host.memory.perms? ((region.base.toNat + offset.toNat) / pageBytes) =
      some perms)
    (locked : perms.write = false) :
    (machine.step logging (.library (.region id (.write offset bytes)) inThread)).1.result =
      .error (.stop .fault) := by
  have refused : machine.host.memory.write? (region.base.toNat + offset.toNat) bytes.length
      (byteAt bytes) =
      none :=
    Memory.write?_of_locked (Nat.le_refl _)
      (Nat.lt_add_of_pos_right (List.length_pos_of_ne_nil nonempty)) mapped locked
  obtain ⟨_, _, ran⟩ := @ends_use Unit logging (.start machine.host _) _ machine.slots id region []
    (fun region => region.write offset bytes) (fun _ _ => .unit) _ held
    (Region.ends_write_fault rfl writable inside refused)
  exact (steps_of_exec_undone (.library (.region id (.write offset bytes)) inThread) ran
    rfl).result_eq

end Machine

/-- **Making a region executable when the page size has changed.** A script created a region under
one page size; the region is still writable, with all its memory readable and writable and below the
address limit; and the host reports another page size now. Both are powers of two, and no fault is
due for the call.

* If the length of the region is now no longer than its memory, the region becomes executable. Its
  pages within the length can be read and executed then, and the others are as they were.
* If it is longer, the attempt fails for want of memory and the region stays writable, without an
  entry. But all its pages can be read and executed then, so every write of at least a byte within
  the region faults.

No other page changes, and no byte. -/
theorem make_executable_under_drift (logging : Logging) {script : List Step} {id : SlotId}
    {size page base : UInt64} (inThread : Bool)
    (created : Machine.Created logging id size page base script)
    (power : page.toNat.isPowerOfTwo)
    (held : (Machine.after logging script).slots.get? id = some (.region ⟨base, size, .writable⟩))
    (mapped : ∀ n ∈ Span.ofRange base (mappedBytes size page),
      (Machine.after logging script).host.memory.perms? n = some .readWrite)
    (below : base.toNat + (wholePages (mappedBytes size page)).toNat ≤ addressLimit.toNat)
    (powerNow : (Machine.after logging script).host.pageSize.toNat.isPowerOfTwo)
    (unspoiled : (Plan.take .protect (Machine.after logging script).host.plans).1 = none) :
    let machine := Machine.after logging script
    let own := mappedBytes size page
    let now := mappedBytes size machine.host.pageSize
    let made := machine.step logging (.library (.region id .makeExecutable) inThread)
    mappingLength size page = .ok (some own) ∧
    mappingLength size machine.host.pageSize = .ok (some now) ∧
    (wholePages now ≤ wholePages own →
      made.1.result = .ok .unit ∧
      made.2.slots = machine.slots.insert id (.region ⟨base, size, .executable⟩) ∧
      made.2.host.memory = machine.host.memory.protectPages (.ofRange base now) .readExec ∧
      (∀ n ∈ Span.ofRange base now, made.2.host.memory.perms? n = some .readExec) ∧
      ∀ n ∈ Span.ofRange base own, n ∉ Span.ofRange base now →
        made.2.host.memory.perms? n = some .readWrite) ∧
    (wholePages own < wholePages now →
      made.1.result = .error (.stop (.error (.invalidRegion .outOfMemory))) ∧
      made.2.slots = machine.slots ∧ Region.entry? ⟨base, size, .writable⟩ = none ∧
      made.2.host.memory = machine.host.memory.protectPages (.ofRange base own) .readExec ∧
      (∀ n ∈ Span.ofRange base own, made.2.host.memory.perms? n = some .readExec) ∧
      ∀ (offset : UInt64) (bytes : List UInt8) (inThread : Bool), bytes ≠ [] →
        offset.toNat + bytes.length ≤ size.toNat →
        (made.2.step logging (.library (.region id (.write offset bytes)) inThread)).1.result =
          .error (.stop .fault)) := by
  intro machine own now made
  obtain ⟨plans, served⟩ := Host.serves_of_unspoiled unspoiled
  have drifted : Drifted { machine.host with plans } base size page :=
    (created.drifted power below powerNow).withPlans plans
  have called : machine.host.call (.protect base now .readExec) =
      { machine.host with plans }.protect base now .readExec := served _ rfl
  have found : ∀ n ∈ Span.ofRange base own, (machine.host.memory.page? n).isSome :=
    fun n member => Memory.isSome_page?_of_perms? (mapped n member)
  -- where the pages of a span within the region's memory get new permissions
  have changed : ∀ {span : Span} {n : Nat}, n ∈ span → n ∈ Span.ofRange base own →
      (machine.host.memory.protectPages span .readExec).perms? n = some .readExec := by
    intro span n member inside
    rw [Memory.perms?_protectPages, if_pos member, mapped n inside]
    rfl
  refine ⟨drifted.rounds, drifted.roundsNow, fun shorter => ?_, fun longer => ?_⟩
  · rw [drifted.protect_within shorter found] at called
    have steps := Machine.steps_makeExecutable logging inThread held rfl drifted.roundsNow called
    rw [steps.result_eq, steps.slots_eq, steps.host_eq]
    refine ⟨rfl, rfl, rfl, fun n member => changed member (Span.ofRange_mono shorter member), ?_⟩
    intro n inside outside
    show (machine.host.memory.protectPages _ _).perms? n = _
    rw [Memory.perms?_protectPages, if_neg outside]
    exact mapped n inside
  · rw [drifted.protect_beyond longer found] at called
    have steps :=
      Machine.steps_makeExecutable_refused logging inThread held rfl drifted.roundsNow called
    refine ⟨steps.result_eq, steps.slots_eq, rfl, ?_, ?_, ?_⟩
    · rw [steps.host_eq]
    · rw [steps.host_eq]
      exact fun n member => changed member member
    · intro offset bytes thread nonempty inside
      have covers := drifted.covers
      have positive := List.length_pos_of_ne_nil nonempty
      have member := drifted.lies.page_mem (Nat.le_add_right base.toNat offset.toNat) (by omega)
      have still : made.2.slots.get? id = some (.region ⟨base, size, .writable⟩) := by
        rw [steps.slots_eq]
        exact held
      have locked : made.2.host.memory.perms? ((base.toNat + offset.toNat) / pageBytes) =
          some .readExec := by
        rw [steps.host_eq]
        exact changed member member
      exact Machine.step_write_faults logging thread still rfl nonempty inside locked rfl

/-- A region of two pages, and then a page size of four. -/
def grownPageSize : List Step :=
  [.library (.region 0 (.allocate 5000)) false, .host (.setPageSize 16384)]

theorem make_executable_under_drift_grownPageSize :
    let machine := Machine.after .silent grownPageSize
    let made := machine.step .silent (.library (.region 0 .makeExecutable) false)
    machine.slots.get? 0 = some (.region ⟨0x10000000000, 5000, .writable⟩) ∧
    (∀ n ∈ Span.mk 0x10000000 2, machine.host.memory.perms? n = some .readWrite) ∧
    made.1.result = .error (.stop (.error (.invalidRegion .outOfMemory))) ∧
    made.2.slots = machine.slots ∧
    (∀ n ∈ Span.mk 0x10000000 2, made.2.host.memory.perms? n = some .readExec) ∧
    (made.2.step .silent (.library (.region 0 (.write 4999 [7])) true)).1.result =
      .error (.stop .fault) := by
  have created : Machine.Created .silent 0 5000 4096 0x10000000000 grownPageSize :=
    @Machine.Created.intro .silent 0 5000 4096 0x10000000000 [] _ (.allocate 5000) false rfl rfl
      nofun (by decide +kernel)
  have held : (Machine.after .silent grownPageSize).slots.get? 0 =
      some (.region ⟨0x10000000000, 5000, .writable⟩) := by decide +kernel
  have own : Span.ofRange 0x10000000000 (mappedBytes 5000 4096) = ⟨0x10000000, 2⟩ := by
    decide +kernel
  have mapped : ∀ n ∈ Span.mk 0x10000000 2,
      (Machine.after .silent grownPageSize).host.memory.perms? n = some .readWrite := by
    rintro n ⟨low, high⟩
    obtain rfl | rfl : n = 0x10000000 ∨ n = 0x10000001 := by
      change n < 0x10000000 + 2 at high
      change 0x10000000 ≤ n at low
      omega
    · decide +kernel
    · decide +kernel
  have below : (0x10000000000 : UInt64).toNat + (wholePages (mappedBytes 5000 4096)).toNat ≤
      addressLimit.toNat := by decide +kernel
  obtain ⟨_, _, _, longer⟩ := make_executable_under_drift .silent false created (by decide) held
    (by rw [own]; exact mapped) below (by decide +kernel) (by decide +kernel)
  obtain ⟨result, slots, _, _, changed, faults⟩ := longer (by decide +kernel)
  rw [own] at changed
  exact ⟨held, mapped, result, slots, changed, faults 4999 [7] true nofun (by decide)⟩

/-! ## Ending a region -/

namespace Machine

variable {machine : Machine} {id : SlotId} {region : Region} {length : UInt64} {later : Host}
  {reply : Reply}

theorem steps_free (logging : Logging) (inThread : Bool)
    (held : machine.slots.get? id = some (.region region))
    (rounds : mappingLength region.size machine.host.pageSize = .ok (some length))
    (called : machine.host.call (.unmap region.base length) = (reply, later)) :
    machine.Steps logging (.library (.region id .free) inThread)
      (match reply with
        | .ok _ => .ok .unit
        | .error errno => .error (.stop (.error (.invalidRegion errno))))
      [⟨.unmap region.base length, reply⟩] later (machine.slots.erase id) := by
  cases reply with
  | ok value =>
      obtain ⟨_, _, ran⟩ :=
        @ends_consume logging (.start machine.host _) _ _ _ _ _ Region.free _ held
        (Mapping.ends_release rfl rounds called)
      exact steps_of_exec (.library (.region id .free) inThread) ran rfl
  | error errno =>
      obtain ⟨_, _, ran⟩ :=
        @ends_consume logging (.start machine.host _) _ _ _ _ _ Region.free _ held
        (Mapping.ends_release_refused rfl rounds called)
      exact steps_of_exec (.library (.region id .free) inThread) ran rfl

theorem steps_discard (logging : Logging) (inThread : Bool)
    (held : machine.slots.get? id = some (.region region))
    (rounds : mappingLength region.size machine.host.pageSize = .ok (some length))
    (called : machine.host.call (.unmap region.base length) = (reply, later)) :
    machine.Steps logging (.library (.region id .discard) inThread) (.ok .unit)
      [⟨.unmap region.base length, reply⟩] later (machine.slots.erase id) := by
  obtain ⟨_, _, ran⟩ :=
    @ends_consume logging (.start machine.host _) _ _ _ _ _ Region.discard _ held
    (Region.ends_discard rfl rounds called)
  exact steps_of_exec (.library (.region id .discard) inThread) ran rfl

/-- The pages of two regions with different addresses belong to different mappings. -/
theorem Created.foreign {logging : Logging} {script : List Step} {other : SlotId}
    {size page base size' page' base' : UInt64} (power : page'.toNat.isPowerOfTwo)
    (created : Created logging other size' page' base' script)
    (aligned : base.toNat % pageBytes = 0)
    (different : base' ≠ base) {n : Nat} (member : n ∈ Span.ofRange base' (mappedBytes size' page'))
    (mapped : ((after logging script).host.memory.page? n).isSome) :
    (after logging script).host.Foreign (.ofRange base (mappedBytes size page)) n := by
  obtain ⟨length, rounds, range, placed⟩ := created.placed power
  obtain ⟨rfl, _⟩ := mappingLength_eq_some power rounds
  refine ⟨mapped, _, placed, fun same => different (UInt64.toNat_inj.mp ?_), member⟩
  have first : base'.toNat / pageBytes = base.toNat / pageBytes := congrArg Span.first same
  have alignedOther := range.aligned
  unfold pageBytes at *
  omega

end Machine

/-- **Ending a region when the page size has changed.** A script created a region under one page
size; all its memory is still mapped and below the address limit; and the host reports another page
size now. Both are powers of two, and no fault is due for the call. Then the region is freed or
discarded, and has left its slot in every case. Discarding does to memory what freeing does, and
does not report.

* If the length of the region now ends behind the address limit, freeing it fails and nothing is
  unmapped.
* Otherwise freeing it succeeds, and exactly the mapped pages of that length are gone. What the
  region has beyond that stays mapped. Other mappings lose pages exactly if one of them has pages
  between the end of the region's memory and the end of that length. So what is lost is the region's
  memory, neither more nor less, exactly if the length is not shorter than it and no other mapping
  has pages there.

The memory of another region is another mapping. -/
theorem release_under_drift (logging : Logging) {script : List Step} {id : SlotId}
    {size page base : UInt64} {state : RegionState} (inThread : Bool)
    (created : Machine.Created logging id size page base script) (power : page.toNat.isPowerOfTwo)
    (held : (Machine.after logging script).slots.get? id = some (.region ⟨base, size, state⟩))
    (mapped : ∀ n ∈ Span.ofRange base (mappedBytes size page),
      ((Machine.after logging script).host.memory.page? n).isSome)
    (below : base.toNat + (wholePages (mappedBytes size page)).toNat ≤ addressLimit.toNat)
    (powerNow : (Machine.after logging script).host.pageSize.toNat.isPowerOfTwo)
    (unspoiled : (Plan.take .unmap (Machine.after logging script).host.plans).1 = none) :
    let machine := Machine.after logging script
    let length := mappedBytes size page
    let lengthNow := mappedBytes size machine.host.pageSize
    let own := Span.ofRange base length
    let now := Span.ofRange base lengthNow
    let freed := machine.step logging (.library (.region id .free) inThread)
    let discarded := machine.step logging (.library (.region id .discard) inThread)
    let before := machine.host.memory
    let after := freed.2.host.memory
    mappingLength size page = .ok (some length) ∧
    mappingLength size machine.host.pageSize = .ok (some lengthNow) ∧
    (freed.2.slots = machine.slots.erase id ∧ discarded.2.slots = machine.slots.erase id ∧
      discarded.1.result = .ok .unit ∧ discarded.2.host.memory = after) ∧
    (addressLimit - base < lengthNow →
      freed.1.result = .error (.stop (.error (.invalidRegion .invalidArgument))) ∧ after = before) ∧
    (lengthNow ≤ addressLimit - base →
      freed.1.result = .ok .unit ∧ after = before.unmapPages now ∧
      (∀ n ∈ own, n ∉ now → after.page? n = before.page? n ∧ (after.page? n).isSome) ∧
      ((∃ n, before.Loses after n ∧ machine.host.Foreign own n) ↔
        ∃ n, machine.host.Foreign own n ∧ own.stop ≤ n ∧ n < now.stop) ∧
      ((∀ n, before.Loses after n ↔ n ∈ own) ↔ wholePages length ≤ wholePages lengthNow ∧
        ¬ ∃ n, machine.host.Foreign own n ∧ own.stop ≤ n ∧ n < now.stop)) ∧
    ∀ other size' page' base', Machine.Created logging other size' page' base' script →
      page'.toNat.isPowerOfTwo → base' ≠ base → ∀ n ∈ Span.ofRange base' (mappedBytes size' page'),
        (before.page? n).isSome → machine.host.Foreign own n := by
  intro machine length lengthNow own now freed discarded before after
  obtain ⟨plans, served⟩ := Host.serves_of_unspoiled unspoiled
  have drifted : Drifted machine.host base size page := created.drifted power below powerNow
  rcases called : machine.host.call (.unmap base lengthNow) with ⟨reply, later⟩
  have answered : (reply, later) = { machine.host with plans }.unmap base lengthNow :=
    called.symm.trans (served _ rfl)
  rw [(drifted.withPlans plans).unmap_eq] at answered
  have frees := Machine.steps_free logging inThread held drifted.roundsNow called
  have discards := Machine.steps_discard logging inThread held drifted.roundsNow called
  refine ⟨drifted.rounds, drifted.roundsNow,
    ⟨frees.slots_eq, discards.slots_eq, discards.result_eq, ?_⟩,
    ?_, ?_, ?_⟩
  · exact congrArg Host.memory (discards.host_eq.trans frees.host_eq.symm)
  · intro longer
    rw [if_neg (UInt64.not_le.mpr longer)] at answered
    cases answered
    refine ⟨frees.result_eq, ?_⟩
    show freed.2.host.memory = before
    rw [frees.host_eq]
  · intro ends
    rw [if_pos ends] at answered
    cases answered
    have taken : after = before.unmapPages now := congrArg Host.memory frees.host_eq
    rw [taken]
    obtain ⟨others, exactly⟩ :=
      drifted.spaced.losses drifted.placed (Span.first_ofRange_eq base length lengthNow) mapped
    refine ⟨frees.result_eq, rfl, fun n inside outside => ?_, others, ?_⟩
    · rw [Memory.page?_unmapPages, if_neg outside]
      exact ⟨rfl, mapped n inside⟩
    · rw [exactly, drifted.covers_iff]
  · intro other size' page' base' createdOther powerOther different n member found
    exact Machine.Created.foreign powerOther createdOther drifted.lies.aligned different member
      found

/-- Two regions of a page each, and then a page size that reaches from the one to the other. -/
def widenedPageSize : List Step := [
  .library (.region 0 (.allocate 10)) false,
  .library (.region 1 (.allocate 10)) false,
  .host (.setPageSize 0x400000)]

theorem release_under_drift_widenedPageSize :
    let machine := Machine.after .silent widenedPageSize
    let freed := machine.step .silent (.library (.region 0 .free) false)
    machine.slots.get? 0 = some (.region ⟨0x10000000000, 10, .writable⟩) ∧
    freed.1.result = .ok .unit ∧
    freed.2.slots.get? 1 = some (.region ⟨0x10000200000, 10, .writable⟩) ∧
    machine.host.Foreign ⟨0x10000000, 1⟩ 0x10000200 ∧
    (∃ n, machine.host.memory.Loses freed.2.host.memory n ∧
      machine.host.Foreign ⟨0x10000000, 1⟩ n) ∧
    ¬ ∀ n, machine.host.memory.Loses freed.2.host.memory n ↔ n ∈ Span.mk 0x10000000 1 := by
  have created : Machine.Created .silent 0 10 4096 0x10000000000 widenedPageSize :=
    @Machine.Created.intro .silent 0 10 4096 0x10000000000 [] _ (.allocate 10) false rfl rfl nofun
      (by decide +kernel)
  have createdOther : Machine.Created .silent 1 10 4096 0x10000200000 widenedPageSize :=
    @Machine.Created.intro .silent 1 10 4096 0x10000200000
      [.library (.region 0 (.allocate 10)) false] _ (.allocate 10) false rfl (by decide +kernel)
      (by unfold Host.Plain; decide +kernel) (by decide +kernel)
  have held : (Machine.after .silent widenedPageSize).slots.get? 0 =
      some (.region ⟨0x10000000000, 10, .writable⟩) := by decide +kernel
  have heldOther : (Machine.after .silent widenedPageSize).slots.get? 1 =
      some (.region ⟨0x10000200000, 10, .writable⟩) := by decide +kernel
  have own : Span.ofRange 0x10000000000 (mappedBytes 10 4096) = ⟨0x10000000, 1⟩ := by decide +kernel
  have now : Span.ofRange 0x10000000000
      (mappedBytes 10 (Machine.after .silent widenedPageSize).host.pageSize) =
        ⟨0x10000000, 1024⟩ := by
    decide +kernel
  have mapped : ∀ n ∈ Span.mk 0x10000000 1,
      ((Machine.after .silent widenedPageSize).host.memory.page? n).isSome := by
    rintro n ⟨low, high⟩
    obtain rfl : n = 0x10000000 := Nat.le_antisymm (Nat.le_of_lt_succ high) low
    decide +kernel
  have below : (0x10000000000 : UInt64).toNat + (wholePages (mappedBytes 10 4096)).toNat ≤
      addressLimit.toNat := by decide +kernel
  obtain ⟨_, _, ⟨slots, _⟩, _, taken, others⟩ :=
    release_under_drift .silent false created (by decide) held (by rw [own]; exact mapped) below
    (by decide +kernel) (by decide +kernel)
  obtain ⟨result, _, _, loses, exactly⟩ := taken (by decide +kernel)
  have foreign := others 1 10 4096 0x10000200000 createdOther (by decide) (by decide) 0x10000200
    (by decide +kernel) (by decide +kernel)
  rw [own] at foreign
  rw [own, now] at loses exactly
  have between : ∃ n, (Machine.after .silent widenedPageSize).host.Foreign ⟨0x10000000, 1⟩ n ∧
      0x10000001 ≤ n ∧ n < 0x10000400 := ⟨0x10000200, foreign, by decide, by decide⟩
  refine ⟨held, result, ?_, foreign, loses.mpr between, fun all => (exactly.mp all).2 between⟩
  rw [slots, Slots.get?_erase, if_neg (by decide)]
  exact heldOther

end ExecMemory
