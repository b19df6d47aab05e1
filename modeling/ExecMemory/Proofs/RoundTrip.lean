import ExecMemory.Proofs.Allocation
import ExecMemory.Proofs.Classification
import ExecMemory.Proofs.Jobs

/-!
# From allocation to release

Nobody keeps track of a mapping but its caller: each operation on it computes the pages anew from
the size that the caller passes. As long as that is always the same size, they come to the same
pages, and a release takes back exactly what the allocation added.

* `Op.Asks.fails` and `Machine.step_spoiled`: a call that a planned fault spoils leaves memory
  alone.
* `Leased` compares memory with what it was before the allocation. What the caller does with the
  mapping (`Machine.Uses`) keeps it (`Leased.step`, `Leased.run`).
* `Host.Retired` says that pages were handed out and are gone. They never come back
  (`retired_invariant`), so whoever touches them faults (`Machine.untouchable`).
-/

namespace ExecMemory

/-! ## Calls that a fault spoils -/

namespace Op

variable {α β : Type} {op : Op α} {logging : Logging} {context : Context} {size : UInt64}
  {request : UInt64 → Request}

/-- The operation stops with an error, and nothing of the host has changed but its plans. -/
def Fails (op : Op α) (logging : Logging) (context : Context) : Prop :=
  ∃ error plans calls, { context.host with plans }.Plain ∧
    op.Ends logging context (.error (.error error)) { context.host with plans } calls

/-- Nothing of the host has changed but its plans, whatever the operation makes of that. -/
def Spares (op : Op α) (logging : Logging) (context : Context) : Prop :=
  ∃ result plans calls, result ≠ .error .fault ∧ { context.host with plans }.Plain ∧
    op.Ends logging context result { context.host with plans } calls

theorem Fails.spares (fails : op.Fails logging context) : op.Spares logging context := by
  obtain ⟨error, plans, calls, plain, ends⟩ := fails
  exact ⟨.error (.error error), plans, calls, nofun, plain, ends⟩

theorem Fails.bind (fails : op.Fails logging context) {next : α → Op β} :
    Fails (op >>= next) logging context := by
  obtain ⟨error, plans, calls, plain, ends⟩ := fails
  exact ⟨error, plans, calls, plain, ends.bind_error⟩

/-- The failure becomes a value for what follows. -/
theorem Fails.attempt (fails : op.Fails logging context) {next : Except Error α → Op β}
    (rest : ∀ error (later : Context), ∃ value,
      (next (.error error)).Ends logging later (.ok value) later.host []) :
    Spares (attempt op >>= next) logging context := by
  obtain ⟨error, plans, calls, plain, ends⟩ := fails
  obtain ⟨later, same, run⟩ := ends.attempt.continues
  obtain ⟨value, ends⟩ := rest error later
  rw [same] at ends
  exact ⟨.ok value, plans, calls ++ [], nofun, plain, run ends⟩

/-- An operation with one request fails when a fault is due for it. -/
theorem Asks.fails (asks : op.Asks logging context size request) {kind : CallKind}
    (kinds : ∀ length, (request length).kind = kind)
    (power : context.host.pageSize.toNat.isPowerOfTwo)
    (plain : context.host.Plain) (due : (Plan.take kind context.host.plans).1 ≠ none) :
    op.Fails logging context := by
  rcases mappingLength_cases size power with overflows | ⟨length, rounds⟩
  · exact ⟨_, context.host.plans, _, plain, asks.unrounded overflows⟩
  · rcases called : context.host.call (request length) with ⟨reply, later⟩
    rw [← kinds length] at due
    rcases plain.reaction called with ⟨taken, _⟩ | @⟨plans, _, errno, taken⟩ | @⟨plans, taken, maps⟩
    · rw [taken] at due
      exact absurd rfl due
    · exact ⟨_, plans, _, plain.take taken,
        asks.refused rounds called (SysCall.succeeded_error _ _)⟩
    · have failed : SysCall.succeeded ⟨request length, .ok 0⟩ = false := by
        revert maps
        cases request length with
        | map => exact fun _ => rfl
        | protect | unmap => nofun
      exact ⟨_, plans, _, plain.take taken, asks.refused rounds called failed⟩

/-- It succeeds when no fault is due for it and the host can grant it. -/
theorem Asks.succeeds (asks : op.Asks logging context size request) {length : UInt64}
    {granted : Memory} (rounds : mappingLength size context.host.pageSize = .ok (some length))
    (fixed : (request length).kind ≠ .map)
    (grants : ∀ {reply later}, context.host.call (request length) = (reply, later) →
      Granted context.host (request length).kind granted reply later)
    (plain : context.host.Plain)
    (clear : (Plan.take (request length).kind context.host.plans).1 = none) :
    ∃ value plans calls, { context.host with plans }.Plain ∧
      op.Ends logging context (.ok value) { context.host with plans, memory := granted } calls := by
  rcases called : context.host.call (request length) with ⟨reply, later⟩
  cases grants called with
  | @granted plans taken =>
      obtain ⟨value, ends⟩ := asks.granted rounds called (SysCall.succeeded_ok fixed 0)
      exact ⟨value, plans, _, plain.take taken, ends⟩
  | refused taken =>
      rw [taken] at clear
      cases clear

end Op

/-- The kind of the first request that a call makes. -/
def Call.asks? : Call → Option CallKind
  | .mapping (.alloc ..) | .c (.alloc ..) | .region _ (.allocate _) | .region _ (.ofCode _) =>
    some .map
  | .mapping (.protect ..) | .mapping (.makeExecutable ..) | .c (.makeExecutable ..)
  | .region _ .makeExecutable => some .protect
  | .mapping (.release ..) | .c (.free ..) | .region _ .free | .region _ .discard => some .unmap
  | _ => none

section Spoiled

variable {logging : Logging} {context : Context} {slots : Slots} {kind : CallKind} {job : Job}

theorem Region.spares_makeExecutable (region : Region)
    (power : context.host.pageSize.toNat.isPowerOfTwo) (plain : context.host.Plain)
    (due : (Plan.take .protect context.host.plans).1 ≠ none) :
    region.makeExecutable.Spares logging context := by
  cases state : region.state with
  | writable =>
      exact ((Region.asks_makeExecutable state).fails (fun _ => rfl) power plain due).spares
  | executable =>
      exact ⟨.error (.error .invalidState), context.host.plans, [], nofun, plain,
        (Region.ends_requireWritable_executable rfl state).bind_error⟩

/-- Whatever call a fault spoils, its operation leaves memory alone. -/
theorem Call.spares {call : Call} (asks : call.asks? = some kind)
    (power : context.host.pageSize.toNat.isPowerOfTwo) (plain : context.host.Plain)
    (due : (Plan.take kind context.host.plans).1 ≠ none) (found : call.job slots = .ok job) :
    job.op.Spares logging context := by
  have fails : ∀ {α : Type} {op : Op α} {size : UInt64} {request : UInt64 → Request},
      op.Asks logging context size request → (∀ length, (request length).kind = kind) →
        op.Fails logging context := fun asks kinds => asks.fails kinds power plain due
  have status : ∀ {op : Op Unit}, op.Fails logging context →
      (CInterface.status op).Spares logging context :=
    fun fails => fails.attempt fun _ _ => ⟨_, Op.ends_pure rfl _⟩
  let spared {α : Type} (op : Op α) : Prop := op.Spares logging context
  cases call with
  | pageSize | lastError | setLastError errno => cases asks
  | mapping call =>
      cases call with
      | length | flushInstructionCache => cases asks
      | alloc slot size =>
          cases asks
          exact Job.of_create spared (fails (Mapping.asks_alloc size) fun _ => rfl).spares found
      | protect place size flags =>
          cases asks
          exact Job.of_atPlace spared
            (fun address => (fails (Mapping.asks_protect address size flags) fun _ => rfl).spares)
            found
      | makeExecutable place size =>
          cases asks
          exact Job.of_atPlace spared
            (fun address => (fails (Mapping.asks_makeExecutable address size) fun _ => rfl).spares)
            found
      | release place size =>
          cases asks
          exact Job.of_atPlace spared
            (fun address => (fails (Mapping.asks_release address size) fun _ => rfl).spares) found
  | c call =>
      cases call with
      | pageSize | errno => cases asks
      | alloc slot size =>
          cases asks
          have failed := fails (Mapping.asks_alloc size) fun _ => rfl
          unfold Call.job CCall.job at found
          dsimp only at found
          split at found <;> cases found
          exact failed.attempt fun _ _ => ⟨_, Op.ends_pure rfl _⟩
      | makeExecutable place size =>
          cases asks
          exact Job.of_atPlace spared
            (fun address => status (fails (Mapping.asks_makeExecutable address size) fun _ => rfl))
            found
      | free place size =>
          cases asks
          exact Job.of_atPlace spared
            (fun address => status (fails (Mapping.asks_release address size) fun _ => rfl)) found
  | region id call =>
      cases call with
      | info | read | write | fill | call => cases asks
      | allocate size =>
          cases asks
          exact Job.of_create spared (fails (Region.asks_allocate size) fun _ => rfl).spares found
      | ofCode code =>
          cases asks
          exact Job.of_create spared (fails (Region.asks_allocate _) fun _ => rfl).bind.spares found
      | makeExecutable =>
          cases asks
          exact Job.of_onRegion spared (fun region => region.spares_makeExecutable power plain due)
            found
      | free =>
          cases asks
          exact Job.of_onRegion spared
            (fun region =>
              (fails (Mapping.asks_release region.base region.size) fun _ => rfl).spares) found
      | discard =>
          cases asks
          exact Job.of_onRegion spared (fun region =>
            (fails (Mapping.asks_release region.base region.size) fun _ => rfl).attempt
              fun _ _ => ⟨_, Op.ends_emit rfl _⟩) found

end Spoiled

namespace Machine

variable {machine : Machine} {logging : Logging} {call : Call} {inThread : Bool}

/-- A call that a fault spoils uses up the fault and does nothing else to the host. -/
theorem step_spoiled {kind : CallKind} (logging : Logging) (inThread : Bool)
    (asks : call.asks? = some kind) (power : machine.host.pageSize.toNat.isPowerOfTwo)
    (plain : machine.host.Plain)
    (due : (Plan.take kind machine.host.plans).1 ≠ none) :
    ∃ plans, (machine.step logging (.library call inThread)).2.host = { machine.host with plans } ∧
      { machine.host with plans }.Plain := by
  cases found : call.job machine.slots with
  | error halt =>
      obtain ⟨_, stepped⟩ := @step_halted logging machine call inThread halt found
      exact ⟨machine.host.plans, by rw [stepped], plain⟩
  | ok job =>
      obtain ⟨result, plans, calls, kept, plain, ends⟩ :=
        @Call.spares logging (machine.start inThread) machine.slots kind job call asks power plain
          due found
      exact ⟨plans, (steps_job found ends kept).host_eq, plain⟩

/-- A call on a place ends as its operation does. -/
theorem steps_atPlace {α : Type} {place : Place} {op : UInt64 → Op α} {address : UInt64} {value : α}
    {host : Host} {calls : List SysCall} (found : place.address? machine.slots = some address)
    (runs : call.job machine.slots = Job.atPlace machine.slots place op fun _ => .unit)
    (ends : (op address).Ends logging (machine.start inThread) (.ok value) host calls) :
    machine.Steps logging (.library call inThread) (.ok .unit) calls host machine.slots := by
  have job : call.job machine.slots = .ok (.plain machine.slots (op address) fun _ => .unit) := by
    rw [runs, Job.atPlace, found]
  exact steps_job job ends nofun

end Machine

/-! ## A mapping in use -/

/-- The mapping of `length` bytes at `base` was added to the memory `before`, and nothing else has
changed since. Each operation that is given its `size` comes to its `length`. -/
structure Leased (before : Memory) (base size length : UInt64) (host : Host) : Prop where
  plain : host.Plain
  power : host.pageSize.toNat.isPowerOfTwo
  rounds : mappingLength size host.pageSize = .ok (some length)
  lies : Lies base length
  fresh : ∀ n ∈ Span.ofRange base length, before.page? n = none
  outside : ∀ n, n ∉ Span.ofRange base length → host.memory.page? n = before.page? n
  mapped : ∀ n ∈ Span.ofRange base length, (host.memory.page? n).isSome

namespace Leased

variable {before memory : Memory} {base size length : UInt64} {host : Host} {perms : Perms}
  (leased : Leased before base size length host)
include leased

theorem withPlans {plans : List Plan} (plain : { host with plans }.Plain) :
    Leased before base size length { host with plans } :=
  { leased with plain }

theorem withMemory
    (outside : ∀ n, n ∉ Span.ofRange base length → memory.page? n = host.memory.page? n)
    (mapped : ∀ n, (memory.page? n).isSome = (host.memory.page? n).isSome) :
    Leased before base size length { host with memory } :=
  { leased with
    outside := fun n away => (outside n away).trans (leased.outside n away)
    mapped := fun n member => (mapped n).trans (leased.mapped n member) }

theorem protectPages :
    Leased before base size length
      { host with memory := host.memory.protectPages (.ofRange base length) perms } := by
  refine leased.withMemory (fun n away => if_neg away) fun n => ?_
  rw [Memory.page?_protectPages]
  split
  · exact Option.isSome_map
  · rfl

/-- Bytes are written on the pages of the mapping only. -/
theorem write {start count : Nat} {content : Nat → UInt8}
    (wrote : host.memory.write? start count content = some memory)
    (inside : ∀ i < count, (start + i) / pageBytes ∈ Span.ofRange base length) :
    Leased before base size length { host with memory } := by
  refine leased.withMemory (fun n away => ?_) fun n => Memory.isSome_page?_write? wrote
  refine Memory.page?_write?_of_away wrote fun address low high onPage => away ?_
  have member := inside (address - start) (by omega)
  rwa [Nat.add_sub_of_le low, onPage] at member

/-- Without the mapping, memory is what it was. -/
theorem unmapPages : host.memory.unmapPages (.ofRange base length) = before :=
  Memory.unmapPages_eq leased.fresh leased.outside

/-- A change of access that no fault spoils succeeds for the whole mapping. -/
theorem protects {α : Type} {op : Op α} {logging : Logging} {context : Context}
    (same : context.host = host)
    (asks : op.Asks logging context size fun length => .protect base length perms)
    (clear : (Plan.take .protect host.plans).1 = none) :
    ∃ value plans calls, { host with plans }.Plain ∧ op.Ends logging context (.ok value)
      { host with plans, memory := host.memory.protectPages (.ofRange base length) perms }
      calls := by
  subst same
  exact asks.succeeds leased.rounds nofun (leased.lies.call_protect leased.plain leased.mapped)
    leased.plain clear

/-- A release that no fault spoils takes the mapping away. -/
theorem releases {α : Type} {op : Op α} {logging : Logging} {context : Context}
    (same : context.host = host)
    (asks : op.Asks logging context size fun length => .unmap base length)
    (clear : (Plan.take .unmap host.plans).1 = none) :
    ∃ value plans calls, { host with plans }.Plain ∧
      op.Ends logging context (.ok value) { host with plans, memory := before } calls := by
  subst same
  have released := asks.succeeds leased.rounds nofun (leased.lies.call_unmap leased.plain)
    leased.plain clear
  rwa [leased.unmapPages] at released

end Leased

/-! ## What the caller does with it -/

namespace Machine

/-- The step changes the access to the mapping, writes to it, plans a fault that leaves lengths
alone, or is a call of any kind that such a fault spoils. -/
inductive Uses (base size length : UInt64) (machine : Machine) : Step → Prop
  | protect {place : Place} {inThread : Bool} (flags : Flags)
      (found : place.address? machine.slots = some base) :
      Uses base size length machine (.library (.mapping (.protect place size flags)) inThread)
  | makeExecutable {place : Place} {inThread : Bool}
      (found : place.address? machine.slots = some base) :
      Uses base size length machine (.library (.mapping (.makeExecutable place size)) inThread)
  | poke {place : Place} {address : UInt64} {bytes : List UInt8}
      (found : place.address? machine.slots = some address)
      (inside : ∀ i < bytes.length, (address.toNat + i) / pageBytes ∈ Span.ofRange base length) :
      Uses base size length machine (.host (.poke place bytes))
  | plan {plan : Plan} (keepsLength : plan.fault.keepsLength = true) :
      Uses base size length machine (.host (.plan plan))
  | spoiled {call : Call} {inThread : Bool} {kind : CallKind} (asks : call.asks? = some kind)
      (due : (Plan.take kind machine.host.plans).1 ≠ none) :
      Uses base size length machine (.library call inThread)

/-- Each step does that on the machine that the steps before it leave. -/
def AllUse (logging : Logging) (base size length : UInt64) (machine : Machine) : List Step → Prop
  | [] => True
  | step :: later =>
    machine.Uses base size length step ∧
      AllUse logging base size length (machine.step logging step).2 later

theorem AllUse.left {logging : Logging} {base size length : UInt64} {machine : Machine}
    {first later : List Step} (uses : AllUse logging base size length machine (first ++ later)) :
    AllUse logging base size length machine first := by
  induction first generalizing machine with
  | nil => trivial
  | cons step rest ih => exact ⟨uses.1, ih uses.2⟩

variable {machine : Machine} {place : Place}

section Changes

variable {before : Memory} {base size length : UInt64} {call : Call} {inThread : Bool}
  {logging : Logging} {op : UInt64 → Op Unit} (leased : Leased before base size length machine.host)
  (found : place.address? machine.slots = some base)
  (runs : call.job machine.slots = Job.atPlace machine.slots place op fun _ => .unit)
include leased found runs

theorem steps_change {perms : Perms}
    (asks : (op base).Asks logging (machine.start inThread) size fun length =>
      .protect base length perms)
    (clear : (Plan.take .protect machine.host.plans).1 = none) :
    ∃ plans calls, { machine.host with plans }.Plain ∧
      machine.Steps logging (.library call inThread) (.ok .unit) calls
        { machine.host with
          plans
          memory := machine.host.memory.protectPages (.ofRange base length) perms }
            machine.slots := by
  obtain ⟨value, plans, calls, plain, ends⟩ := leased.protects rfl asks clear
  exact ⟨plans, calls, plain, steps_atPlace found runs ends⟩

theorem steps_release
    (asks : (op base).Asks logging (machine.start inThread) size fun length => .unmap base length)
    (clear : (Plan.take .unmap machine.host.plans).1 = none) :
    ∃ plans calls, machine.Steps logging (.library call inThread) (.ok .unit) calls
      { machine.host with plans, memory := before } machine.slots := by
  obtain ⟨value, plans, calls, _, ends⟩ := leased.releases rfl asks clear
  exact ⟨plans, calls, steps_atPlace found runs ends⟩

end Changes

/-- A poke writes its bytes, or it faults and nothing happens. -/
theorem steps_poke (logging : Logging) {bytes : List UInt8} {address : UInt64}
    (found : place.address? machine.slots = some address) :
    (∃ memory, machine.host.memory.write? address.toNat bytes.length (byteAt bytes) = some memory ∧
      machine.Steps logging (.host (.poke place bytes)) (.ok .unit) [] { machine.host with memory }
        machine.slots) ∨
    machine.host.memory.write? address.toNat bytes.length (byteAt bytes) = none ∧
      machine.Steps logging (.host (.poke place bytes)) (.error (.stop .fault)) [] machine.host
        machine.slots := by
  cases written : machine.host.memory.write? address.toNat bytes.length (byteAt bytes) with
  | some memory =>
      exact .inl ⟨memory, rfl, @steps_at_address _ _ _ _ (.poke place bytes)
        (fun address => storeBytes address.toNat bytes) (fun _ => .unit) address _ _ rfl found
        (Op.ends_storeBytes rfl written)⟩
  | none =>
      exact .inr ⟨rfl, @steps_at_address _ _ _ _ (.poke place bytes)
        (fun address => storeBytes address.toNat bytes) (fun _ => .unit) address _ _ rfl found
        (Op.ends_store_fault rfl written)⟩

end Machine

namespace Leased

variable {before : Memory} {base size length : UInt64} {machine : Machine} {logging : Logging}
  {call : Call} {inThread : Bool} (leased : Leased before base size length machine.host)
include leased

theorem step_spoiled {kind : CallKind} (asks : call.asks? = some kind)
    (due : (Plan.take kind machine.host.plans).1 ≠ none) :
    Leased before base size length (machine.step logging (.library call inThread)).2.host := by
  obtain ⟨plans, left, plain⟩ :=
    Machine.step_spoiled logging inThread asks leased.power leased.plain due
  rw [left]
  exact leased.withPlans plain

/-- A change of access is granted, or a fault spoils it. -/
theorem step_change {op : UInt64 → Op Unit} {place : Place} {perms : Perms}
    (found : place.address? machine.slots = some base)
    (runs : call.job machine.slots = Job.atPlace machine.slots place op fun _ => .unit)
    (asks : (op base).Asks logging (machine.start inThread) size fun length =>
      .protect base length perms)
    (kind : call.asks? = some .protect) :
    Leased before base size length (machine.step logging (.library call inThread)).2.host := by
  by_cases clear : (Plan.take .protect machine.host.plans).1 = none
  · obtain ⟨plans, _, plain, steps⟩ := Machine.steps_change leased found runs asks clear
    rw [steps.host_eq]
    exact (leased.withPlans plain).protectPages
  · exact leased.step_spoiled kind clear

/-- **One step.** -/
theorem step (logging : Logging) {step : Step} (uses : machine.Uses base size length step) :
    Leased before base size length (machine.step logging step).2.host := by
  cases uses with
  | protect flags found =>
      exact leased.step_change found rfl (Mapping.asks_protect base size flags) rfl
  | makeExecutable found =>
      exact leased.step_change found rfl (Mapping.asks_makeExecutable base size) rfl
  | @poke place address bytes found inside =>
      rcases @Machine.steps_poke machine place logging bytes address found with
        ⟨memory, wrote, steps⟩ | ⟨_, steps⟩
      · rw [steps.host_eq]
        exact leased.write wrote inside
      · rw [steps.host_eq]
        exact leased
  | @plan plan keepsLength =>
      refine leased.withPlans fun other member => ?_
      rcases List.mem_append.mp member with old | new
      · exact leased.plain other old
      · rw [List.mem_singleton.mp new]
        exact keepsLength
  | spoiled asks due => exact leased.step_spoiled asks due

/-- **Any number of steps.** -/
theorem run (logging : Logging) {steps : List Step}
    (uses : machine.AllUse logging base size length steps) :
    Leased before base size length (machine.run logging steps).2.host := by
  induction steps generalizing machine with
  | nil => exact leased
  | cons step later ih => exact ih (leased.step logging uses.1) uses.2

end Leased

/-! ## After the release -/

/-- The span was handed out, and none of its pages is mapped any more. -/
structure Host.Retired (host : Host) (span : Span) : Prop where
  spaced : host.Spaced
  placed : span ∈ host.placed
  unmapped : ∀ n ∈ span, host.memory.page? n = none

/-- The host does not use an address again. -/
theorem retired_invariant (span : Span) :
    HostInvariant (fun _ => True) fun host => host.Retired span := by
  refine .of_placement ?_ ?_
  · rintro host memory plans pageSize old ⟨spaced, placed, unmapped⟩
    refine ⟨(spaced.withMemory old).withPlans plans pageSize, placed, fun n member => ?_⟩
    rw [← Option.not_isSome_iff_eq_none]
    intro mapped
    have found := old n mapped
    rw [unmapped n member] at found
    cases found
  · rintro host length perms fits room ⟨spaced, placed, unmapped⟩
    refine ⟨spaced.mapped fits room, List.mem_append_left _ placed, fun n member => ?_⟩
    have away : n ∉ Span.ofRange (.ofNat (mapBase + host.cursor)) length := by
      intro inside
      have before := spaced.before_next fits room placed
      have low := inside.1
      have high := member.2
      omega
    exact (if_neg away).trans (unmapped n member)

namespace Memory

variable {memory : Memory} {start length target : Nat} (low : start ≤ target)
  (high : target < start + length) (unmapped : memory.page? (target / pageBytes) = none)
include low high unmapped

/-- No access to a range is permitted if one of its bytes is not mapped. -/
theorem permits_of_unmapped (ok : Perms → Bool) : memory.permits ok start length = false := by
  rw [← Bool.not_eq_true, permits_eq_true_iff]
  intro all
  obtain ⟨page, found, _⟩ := all target low high
  cases unmapped.symm.trans found

theorem read?_of_unmapped : memory.read? start length = none := by
  rw [read?, permits_of_unmapped low high unmapped]
  rfl

theorem write?_of_unmapped (content : Nat → UInt8) : memory.write? start length content = none := by
  rw [write?, permits_of_unmapped low high unmapped]
  rfl

end Memory

namespace Machine

/-- The pages are not mapped: calls into them fault, and so do reads and writes of a byte on
them. -/
structure Untouchable (logging : Logging) (machine : Machine) (span : Span) : Prop where
  unmapped : ∀ n ∈ span, machine.host.memory.page? n = none
  call : ∀ {place address}, place.address? machine.slots = some address →
    address.toNat / pageBytes ∈ span →
    ∀ arguments, (machine.step logging (.host (.call place arguments))).1.result =
      .error (.stop .fault)
  regionCall : ∀ {id region offset}, machine.slots.get? id = some (.region region) →
    region.state = .executable → (region.base + .ofInt offset).toNat / pageBytes ∈ span →
    ∀ arguments inThread,
      (machine.step logging (.library (.region id (.call arguments offset)) inThread)).1.result =
      .error (.stop .fault)
  peek : ∀ {place address} {count : UInt64} {i : Nat}, place.address? machine.slots = some address →
    i < count.toNat → (address.toNat + i) / pageBytes ∈ span →
    (machine.step logging (.host (.peek place count))).1.result = .error (.stop .fault)
  poke : ∀ {place address} {bytes : List UInt8} {i : Nat},
    place.address? machine.slots = some address →
    i < bytes.length → (address.toNat + i) / pageBytes ∈ span →
    (machine.step logging (.host (.poke place bytes))).1.result = .error (.stop .fault)

/-- A call of an executable region faults where nothing can be executed. -/
theorem step_call_faults {machine : Machine} {id : SlotId} {region : Region} {offset : Int}
    (logging : Logging) (inThread : Bool) (held : machine.slots.get? id = some (.region region))
    (executable : region.state = .executable)
    (missing : machine.host.memory.fetch? (region.base + .ofInt offset).toNat = none)
    (arguments : List Int32) :
    (machine.step logging (.library (.region id (.call arguments offset)) inThread)).1.result =
      .error (.stop .fault) := by
  have entry : region.entry? = some region.base := by simp [Region.entry?, executable]
  have job : (Call.region id (.call arguments offset)).job machine.slots =
      .ok (.plain machine.slots (callWith (region.base + .ofInt offset) arguments) .number) := by
    show Job.onRegion machine.slots id _ = _
    rw [Job.onRegion, Slots.region?_eq_some_iff.mpr held]
    dsimp only
    rw [entry]
  exact step_job_fault job (exec_callCode_missing logging _ _ missing)

theorem untouchable (logging : Logging) {machine : Machine} {span : Span}
    (unmapped : ∀ n ∈ span, machine.host.memory.page? n = none) :
    machine.Untouchable logging span := by
  have missing : ∀ {address : Nat}, address / pageBytes ∈ span →
      machine.host.memory.fetch? address = none := by
    intro address member
    rw [Memory.fetch?, unmapped _ member]
  refine ⟨unmapped, ?_, ?_, ?_, ?_⟩
  · intro place address found member arguments
    exact step_host_call_faults logging found (missing member)
  · intro id region offset held executable member arguments inThread
    exact step_call_faults logging inThread held executable (missing member) arguments
  · intro place address count i found short member
    have unreadable : machine.host.memory.read? address.toNat count.toNat = none :=
      Memory.read?_of_unmapped (Nat.le_add_right _ i) (by omega) (unmapped _ member)
    exact (@steps_at_address _ _ _ _ (.peek place count)
      (fun address => load address.toNat count.toNat) .bytes address _ _ rfl found
      (Op.ends_load_fault rfl unreadable)).result_eq
  · intro place address bytes i found short member
    have unwritable : machine.host.memory.write? address.toNat bytes.length (byteAt bytes) = none :=
      Memory.write?_of_unmapped (Nat.le_add_right _ i) (by omega) (unmapped _ member) _
    rcases @steps_poke machine place logging bytes address found with ⟨_, wrote, _⟩ | ⟨_, steps⟩
    · cases unwritable.symm.trans wrote
    · exact steps.result_eq

end Machine

/-! ## The whole life of a mapping -/

namespace Machine

variable {logging : Logging} {past : List Step} {slot : SlotId} {size base length : UInt64}
  {inThread : Bool}

/-- An allocation that answers adds a mapping to what there was. -/
theorem alloc_leased (plain : (after logging past).host.Plain)
    (power : (after logging past).host.pageSize.toNat.isPowerOfTwo)
    (answered : ((after logging past).step logging
      (.library (.mapping (.alloc slot size)) inThread)).1.result =
      .ok (.address base))
    (rounds : mappingLength size (after logging past).host.pageSize = .ok (some length))
    (below : base.toNat + (wholePages length).toNat ≤ addressLimit.toNat) :
    let later :=
      ((after logging past).step logging (.library (.mapping (.alloc slot size)) inThread)).2.host
    Leased (after logging past).host.memory base size length later ∧ later.Spaced ∧
      Span.ofRange base length ∈ later.placed := by
  intro later
  have spaced := spaced_after logging past
  obtain ⟨job, returned, context, found, ran, answer, left⟩ := job_of_answered answered
  change Job.create _ slot (Mapping.alloc size) .raw .address = _ at found
  unfold Job.create at found
  split at found <;> cases found
  change (Mapping.alloc size).exec _ _ = _ at ran
  cases answer
  have cases := @Mapping.alloc_cases logging ((after logging past).start inThread) size plain power
  dsimp only at cases
  rw [ran] at cases
  rcases cases with
    ⟨_, plans, roundsToo, fits, room, taken, succeeded, mapped⟩ | ⟨⟨error, failed⟩, _⟩
  · cases succeeded
    cases rounds.symm.trans roundsToo
    have same : later = { (after logging past).host with plans }.mapped length .readWrite :=
      left.trans mapped
    rw [same]
    refine ⟨⟨plain.take taken, power, rounds,
      ⟨Host.pageRange_of_cursor spaced.cursor_mod fits, below⟩,
      fun n member => spaced.page?_next fits room member, fun n away => if_neg away,
      fun n member => ?_⟩,
      (spaced.withPlans plans _).mapped fits room, List.mem_append_right _ List.mem_cons_self⟩
    rw [show Memory.page? _ n = _ from if_pos member]
    rfl
  · cases failed

/-- The step answers without an error, and the pages of the span have other permissions then. That
is all that it does to memory. -/
structure Reprotects (logging : Logging) (machine : Machine) (step : Step) (span : Span)
    (perms : Perms) : Prop where
  answered : (machine.step logging step).1.result = .ok .unit
  memory : (machine.step logging step).2.host.memory = machine.host.memory.protectPages span perms
  whole : ∀ n ∈ span, (machine.step logging step).2.host.memory.perms? n = some perms

theorem reprotects {machine : Machine} {before : Memory} {call : Call} {op : UInt64 → Op Unit}
    {place : Place} {perms : Perms} (leased : Leased before base size length machine.host)
    (found : place.address? machine.slots = some base)
    (runs : call.job machine.slots = Job.atPlace machine.slots place op fun _ => .unit)
    (asks : (op base).Asks logging (machine.start inThread) size fun length =>
      .protect base length perms)
    (clear : (Plan.take .protect machine.host.plans).1 = none) :
    machine.Reprotects logging (.library call inThread) (.ofRange base length) perms := by
  obtain ⟨plans, _, _, steps⟩ := steps_change leased found runs asks clear
  refine ⟨steps.result_eq, by rw [steps.host_eq], fun n member => ?_⟩
  rw [steps.host_eq, Memory.perms?_protectPages, if_pos member]
  obtain ⟨page, mapped⟩ := Option.isSome_iff_exists.mp (leased.mapped n member)
  rw [Memory.perms?, mapped]
  rfl

end Machine

/-- **A release undoes an allocation.** After any script that leaves no fault waiting which changes
a length, under a page size that is a power of two, let an allocation of `size` bytes answer with
the address `base` of a mapping below the address limit. Let any number of steps use it: change its
access with the same size, write to its pages, and fail because of planned faults.

* At any time in between, a change of access without a fault due for it succeeds and comes to all
  pages of the mapping and to no others.
* In the end, a release with the same size and without a fault due for it succeeds, and memory is
  then what it was before the allocation: the same pages with the same permissions and the same
  bytes.
* From then on, whatever a script does, none of these pages is mapped. A call into them faults, and
  so does a read or a write of a byte on them. -/
theorem release_undoes_alloc (logging : Logging) {past middle : List Step} {slot : SlotId}
    {size base length : UInt64} {inThread : Bool} (plain : (Machine.after logging past).host.Plain)
    (power : (Machine.after logging past).host.pageSize.toNat.isPowerOfTwo)
    (answered : ((Machine.after logging past).step logging
      (.library (.mapping (.alloc slot size)) inThread)).1.result = .ok (.address base))
    (rounds : mappingLength size (Machine.after logging past).host.pageSize = .ok (some length))
    (below : base.toNat + (wholePages length).toNat ≤ addressLimit.toNat)
    (uses : ((Machine.after logging past).step logging
      (.library (.mapping (.alloc slot size)) inThread)).2.AllUse logging base size length middle) :
    let start := Machine.after logging past
    let allocated := (start.step logging (.library (.mapping (.alloc slot size)) inThread)).2
    let span := Span.ofRange base length
    (∀ front, front <+: middle →
      let now := (allocated.run logging front).2
      ∀ place inThread, place.address? now.slots = some base →
        (Plan.take .protect now.host.plans).1 = none →
        (∀ flags, now.Reprotects logging (.library (.mapping (.protect place size flags)) inThread)
          span flags.perms) ∧
        now.Reprotects logging (.library (.mapping (.makeExecutable place size)) inThread) span
          .readExec) ∧
    (let last := (allocated.run logging middle).2
      ∀ place inThread, place.address? last.slots = some base →
        (Plan.take .unmap last.host.plans).1 = none →
        let ended := last.step logging (.library (.mapping (.release place size)) inThread)
        ended.1.result = .ok .unit ∧ ended.2.host.memory = start.host.memory ∧
        ∀ future, (ended.2.run logging future).2.Untouchable logging span) := by
  intro start allocated span
  obtain ⟨leased, spaced, placed⟩ := Machine.alloc_leased plain power answered rounds below
  constructor
  · rintro front ⟨back, rfl⟩ now place inThread found clear
    have leasedNow : Leased start.host.memory base size length now.host :=
      leased.run logging uses.left
    exact ⟨fun flags =>
      Machine.reprotects leasedNow found rfl (Mapping.asks_protect base size flags) clear,
      Machine.reprotects leasedNow found rfl (Mapping.asks_makeExecutable base size) clear⟩
  · intro last place inThread found clear ended
    have leasedLast : Leased start.host.memory base size length last.host := leased.run logging uses
    obtain ⟨plans, _, steps⟩ :=
      @Machine.steps_release last place _ base size length (.mapping (.release place size)) inThread
        logging (fun address => Mapping.release address size) leasedLast found rfl
        (Mapping.asks_release base size) clear
    have restored : ended.2.host.memory = start.host.memory := by
      rw [show ended.2.host = _ from steps.host_eq]
    refine ⟨steps.result_eq, restored, fun future => Machine.untouchable logging ?_⟩
    -- what was handed out is on record, and the release has taken all of it
    have spacedLast : last.host.Spaced :=
      spaced_invariant.run trivial logging (fun step _ => step.within_any) spaced
    have retired : ended.2.host.Retired span :=
      ⟨spaced_invariant.step trivial logging (Step.within_any _) spacedLast,
        (placed_invariant span).step trivial logging (Step.within_any _)
          (Machine.placed_run logging placed middle),
        fun n member => restored ▸ leased.fresh n member⟩
    exact ((retired_invariant span).run trivial logging (fun step _ => step.within_any)
      retired).unmapped

/-- A page size of two pages, and a neighbour. -/
def neighbourPast : List Step := [
  .host (.setPageSize 0x2000),
  .library (.mapping (.alloc 7 100)) false]

/-- A byte behind the size is written; a change of access and a release are refused, the next change
is not. -/
def refusedUses : List Step := [
  .host (.poke (.slot 1 8191) [0xc3]),
  .host (.plan ⟨0, .refuse .protect .accessDenied⟩),
  .library (.mapping (.protect (.slot 1 0) 5000 .readExec)) true,
  .library (.mapping (.makeExecutable (.slot 1 0) 5000)) false,
  .host (.plan ⟨0, .refuse .unmap .invalidArgument⟩),
  .library (.mapping (.release (.slot 1 0) 5000)) false]

theorem release_undoes_alloc_refusedUses :
    let start := Machine.after .silent neighbourPast
    let allocated := (start.step .silent (.library (.mapping (.alloc 1 5000)) false)).2
    let last := (allocated.run .silent refusedUses).2
    let ended := last.step .silent (.library (.mapping (.release (.slot 1 0) 5000)) false)
    start.host.Plain ∧ allocated.AllUse .silent 0x10000200000 5000 0x2000 refusedUses ∧
    ended.1.result = .ok .unit ∧ ended.2.host.memory = start.host.memory ∧
    ((ended.2.run .silent [.library (.mapping (.alloc 2 5000)) false]).2.step .silent
      (.host (.peek (.absolute 0x10000201fff) 1))).1.result = .error (.stop .fault) := by
  intro start allocated last ended
  have plain : start.host.Plain := by
    unfold Host.Plain
    decide +kernel
  have power : start.host.pageSize.toNat.isPowerOfTwo := ⟨13, by decide +kernel⟩
  have uses : allocated.AllUse .silent 0x10000200000 5000 0x2000 refusedUses :=
    ⟨@Machine.Uses.poke _ _ _ _ _ 0x10000201fff _ (by decide +kernel) (by decide +kernel),
      .plan rfl, .protect .readExec (by decide +kernel), .makeExecutable (by decide +kernel),
      .plan rfl,
      .spoiled rfl (by decide +kernel), trivial⟩
  obtain ⟨_, finish⟩ :=
    @release_undoes_alloc .silent neighbourPast refusedUses 1 5000 0x10000200000 0x2000 false plain
    power (by decide +kernel) (by decide +kernel) (by decide +kernel) uses
  obtain ⟨succeeded, restored, dead⟩ :=
    finish (.slot 1 0) false (by decide +kernel) (by decide +kernel)
  have touched : (0x10000201fff : UInt64).toNat / pageBytes ∈
      Span.ofRange 0x10000200000 0x2000 := by decide +kernel
  have faults := @Machine.Untouchable.peek _ _ _ (dead [.library (.mapping (.alloc 2 5000)) false])
    (.absolute 0x10000201fff) 0x10000201fff 1 0 rfl (by decide) touched
  refine ⟨plain, uses, ?_⟩
  -- with the names gone, nothing has to be evaluated to compare the machines
  subst ended last allocated start
  exact ⟨succeeded, restored, faults⟩

end ExecMemory
