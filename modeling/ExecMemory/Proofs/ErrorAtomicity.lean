import ExecMemory.Proofs.PageFrames

/-!
# Failed calls change nothing

A call that creates a region or changes one may fail at several stages: the size has no rounding, no
memory is mapped, the range is not in the region, access is refused. Whatever the stage, an error
leaves memory and slots as they were.

* `Turn.atomic` goes through the failures. The only one that leaves a trace is a region that could
  not be finished and whose memory the host refused to take back (`LeftMapped`).
* Attempts to make a region executable that fail make no difference to one that succeeds
  (`Machine.retried_eq_direct`).
-/

namespace ExecMemory

/-- A call that creates a region, or changes one without ending it. -/
def RegionCall.builds : RegionCall → Bool
  | .allocate _ | .ofCode _ | .write .. | .fill _ | .makeExecutable => true
  | .info | .read .. | .free | .discard | .call .. => false

/-- From one memory to the other, the memory of a region that could not be finished was added, with
the code in it. None of its pages belongs to a region in a slot. -/
def LeftMapped (page : UInt64) (slots : Slots) (call : RegionCall) (before after : Memory) : Prop :=
  ∃ code bytes base, call = .ofCode code ∧ (code.length < UInt64.size → bytes = code) ∧
    Placed (Region.span (.forCode base code) page) base.toNat bytes before after ∧
    ∀ id region, slots.get? id = some (.region region) →
      (region.span page).Disjoint (Region.span (.forCode base code) page)

/-- What is left after an error: slots as they were, and memory too, unless the host refused to take
back what the call had mapped. -/
def Unchanged (page : UInt64) (call : RegionCall) (calls : List SysCall) (before after : Memory)
    (slots slots' : Slots) : Prop :=
  slots' = slots ∧
    if calls.any SysCall.refusesUnmap then LeftMapped page slots call before after
    else after = before

section Turns

variable {page : UInt64} {host later : Host} {slots slots' : Slots} {id : SlotId}
  {call : RegionCall} {result : Except Halt Value} {calls : List SysCall} {abandoned : List Region}

/-- A region that was created and could not be finished is discarded. -/
theorem Sound.unchanged_of_discarded {unfinished : Host} {code bytes : List UInt8}
    {base length : UInt64} {reply : Reply}
    (sound : Sound page host slots.region? abandoned)
    (region : Sound page unfinished (Function.update slots.region? id (some (.forCode base code)))
      abandoned)
    (rounds : mappingLength (.ofNat code.length) page = .ok (some length))
    (placed : Placed (Region.span (.forCode base code) page) base.toNat bytes host.memory
      unfinished.memory)
    (filled : code.length < UInt64.size → bytes = code)
    (cleaned : unfinished.call (.unmap base length) = (reply, later))
    (asked : calls.any SysCall.refusesUnmap = SysCall.refusesUnmap ⟨.unmap base length, reply⟩) :
    Unchanged page (.ofCode code) calls host.memory later.memory slots slots := by
  refine ⟨rfl, ?_⟩
  rw [asked]
  rcases region.discarded (Function.update_self _ _ _) rounds placed cleaned with
    ⟨taken, restored⟩ | ⟨⟨errno, rfl⟩, left⟩
  · cases reply with
    | ok value => exact restored
    | error errno => cases taken
  · refine ⟨code, bytes, base, rfl, filled, left, fun other neighbour held n member => ?_⟩
    have owned := sound.owned other neighbour (Slots.region?_eq_some_iff.mpr held)
    exact left.not_mem (Memory.isSome_page?_of_perms? (owned.mapped n member))

/-- **An error leaves everything as it was**, at whatever stage it occurs. -/
theorem Turn.atomic (turn : Turn host slots id call result calls later slots')
    (sound : Sound page host slots.region? abandoned) (below : later.BelowLimit)
    (builds : call.builds = true) {error : Error}
    (failed : result = .error (.stop (.error error))) :
    Unchanged page call calls host.memory later.memory slots slots' := by
  obtain rfl := sound.pageSize
  cases turn with
  -- the host was not asked
  | tooLarge creates empty overflows => exact ⟨rfl, rfl⟩
  | locked changes held executable => exact ⟨rfl, rfl⟩
  | outside held writable outside => exact ⟨rfl, rfl⟩
  -- the host refused
  | mapRefused creates empty rounds called =>
      obtain ⟨_, _, _, rfl, _⟩ := sound.ready.call_map_error called
      exact ⟨rfl, rfl⟩
  | mapNull creates empty rounds called =>
      obtain ⟨_, _, rfl⟩ := sound.ready.call_map_null called
      exact ⟨rfl, rfl⟩
  | notMadeExecutable held writable rounds called =>
      have live := Slots.region?_eq_some_iff.mpr held
      cases sound.answers_protect live rounds called with
      | refused taken => exact ⟨rfl, rfl⟩
  -- a region was created and discarded
  | unprotected empty rounds called notNull fits written denied cleaned =>
      obtain ⟨refused, placed⟩ := sound.placed_refused (Slots.region?_of_none empty) rounds called
        notNull fits written denied (below.of_call cleaned)
      exact sound.unchanged_of_discarded refused rounds placed (fun _ => rfl) cleaned
        (Bool.or_false _)
  | overlong empty rounds called notNull tooLong cleaned =>
      have placed := (sound.placed_map rounds called notNull).2
      have zeroed := sound.call_map (Slots.region?_of_none empty) rounds called notNull
        (below.of_call cleaned)
      exact sound.unchanged_of_discarded zeroed rounds placed (fun fits => absurd fits tooLong)
        cleaned (Bool.or_false _)
  -- the call builds nothing, or it did not fail
  | read held => cases builds
  | called held => cases builds
  | freeRefused held rounds called => cases builds
  | _ => cases failed

end Turns

/-! ## Trying again -/

/-- The step asks for the region of the slot to be made executable, or plans a fault. -/
def Step.retries (id : SlotId) : Step → Bool
  | .library (.region other .makeExecutable) _ => other == id
  | .host (.plan plan) => plan.fault.keepsLength
  | _ => false

theorem Step.regional_of_retries {id : SlotId} {step : Step} (retries : step.retries id = true) :
    step.regional = true := by
  cases step with
  | library call inThread =>
      cases call with
      | region other call => rfl
      | _ => cases retries
  | host action =>
      cases action with
      | plan plan => exact retries
      | _ => cases retries

/-- No attempt has succeeded so far, so that memory and slots are as at the start, or one has. -/
def Attempted (id : SlotId) (start now : Machine) : Prop :=
  now.host.memory = start.host.memory ∧ now.slots = start.slots ∨
    ∃ region, now.slots.region? id = some region ∧ region.state = .executable

namespace Machine

variable {page : UInt64} {start machine : Machine} {abandoned : List Region} {id : SlotId}

theorem step_retries (logging : Logging) {step : Step} (retries : step.retries id = true)
    (sound : Sound page machine.host machine.slots.region? abandoned)
    (attempted : Attempted id start machine) :
    Attempted id start (machine.step logging step).2 := by
  unfold Attempted
  cases step with
  | host action =>
      obtain ⟨result, host, steps, turn⟩ := hostStep_turn logging machine action
      rw [steps.host_eq, steps.slots_eq]
      cases turn with
      | planned plan => exact attempted
      | _ => cases retries
  | library call inThread =>
      cases call with
      | region other call =>
          cases call with
          | makeExecutable =>
              cases of_decide_eq_true retries
              obtain ⟨result, calls, host, slots, steps, turn⟩ :=
                sound.step_turn logging id .makeExecutable inThread
              rw [steps.host_eq, steps.slots_eq]
              rcases turn.makeExecutable_cases sound with
                ⟨sameMemory, sameSlots, _⟩ | ⟨region, _, _, _, changed, _⟩
              · rw [sameMemory, sameSlots]
                exact attempted
              · rw [changed, Slots.region?_insert, Function.update_self]
                exact .inr ⟨_, rfl, rfl⟩
          | _ => cases retries
      | _ => cases retries

theorem run_retries (logging : Logging) {tries : List Step}
    (retries : ∀ step ∈ tries, step.retries id = true)
    (sound : Sound page machine.host machine.slots.region? abandoned)
    (below : (machine.run logging tries).2.host.BelowLimit)
    (attempted : Attempted id start machine) :
    Attempted id start (machine.run logging tries).2 := by
  induction tries generalizing machine abandoned with
  | nil => exact attempted
  | cons step later ih =>
      have now := retries step List.mem_cons_self
      have here := @Host.BelowLimit.of_run (machine.step logging step).2 logging later below
      exact ih (fun other member => retries other (List.mem_cons_of_mem _ member))
        (step_sound logging (Step.regional_of_retries now) sound here) below
        (step_retries logging now sound attempted)

/-- A successful attempt, after any number of others, does what it would have done at once on a host
without planned faults. -/
theorem retried_eq_direct (logging : Logging) {tries : List Step} (inThread : Bool)
    (retries : ∀ step ∈ tries, step.retries id = true)
    (sound : Sound page machine.host machine.slots.region? abandoned) :
    let request := Step.library (.region id .makeExecutable) inThread
    let last := (machine.run logging tries).2.step logging request
    let direct := { machine with host := { machine.host with plans := [] } }.step logging request
    last.2.host.BelowLimit → last.1.result = .ok .unit →
    direct.1.result = .ok .unit ∧ last.2.host.memory = direct.2.host.memory ∧
      last.2.slots = direct.2.slots := by
  intro request last direct below granted
  have before : (machine.run logging tries).2.host.BelowLimit :=
    @Host.BelowLimit.of_run (machine.run logging tries).2 logging [request] below
  have tried :=
    run_sound logging (fun step member => Step.regional_of_retries (retries step member)) sound
    before
  have unplanned : Sound page { machine.host with plans := [] } machine.slots.region? abandoned :=
    sound.withPlans nofun
  obtain ⟨result, calls, host, slots, steps, turn⟩ :=
    tried.step_turn logging id .makeExecutable inThread
  obtain ⟨result', calls', host', slots', steps', turn'⟩ :=
    @Sound.step_turn _ { machine with host := { machine.host with plans := [] } } _ unplanned
      logging id .makeExecutable inThread
  have granted : result = .ok .unit := steps.result_eq.symm.trans granted
  rw [steps.host_eq, steps.slots_eq, steps'.result_eq, steps'.host_eq, steps'.slots_eq]
  rcases turn.makeExecutable_cases tried with
    ⟨_, _, failed, _⟩ | ⟨region, held, writable, memory, changed, _⟩
  · exact absurd granted failed
  -- the region is still writable, so no attempt before has succeeded
  obtain ⟨sameMemory, sameSlots⟩ : (machine.run logging tries).2.host.memory = machine.host.memory ∧
      (machine.run logging tries).2.slots = machine.slots := by
    rcases run_retries logging retries sound before (.inl ⟨rfl, rfl⟩) with
      same | ⟨other, found, executable⟩
    · exact same
    · cases held.symm.trans (Slots.region?_eq_some_iff.mp found)
      cases writable.symm.trans executable
  rw [sameSlots] at held changed
  rw [sameMemory] at memory
  rcases turn'.makeExecutable_cases unplanned with
    ⟨_, _, _, planned⟩ | ⟨other, found, _, memory', changed', granted'⟩
  · exact absurd rfl (planned region held writable)
  · cases held.symm.trans found
    exact ⟨granted', memory.trans memory'.symm, changed.trans changed'.symm⟩

end Machine

/-- **Failed calls change nothing.** In any state that region calls, pokes, peeks and planned
refusals lead to, on a host that reports a power of two as its page size and hands out memory below
the address limit:

* a call that creates or changes a region and returns an error leaves the slots and all of memory as
  they were: which pages are mapped, their permissions and their bytes. The exception is code for
  which a region was mapped but could not be finished, when the host refuses to take the pages back:
  exactly these pages are added, readable and writable, with the code in them, and no slot owns
  them.
* when a region is made executable after any number of attempts, and with more refusals planned
  between them, memory and slots are as after the first attempt on a host that refuses nothing. -/
theorem failed_calls_change_nothing (logging : Logging) {page : UInt64}
    (power : page.toNat.isPowerOfTwo) {steps : List Step}
    (regional : ∀ step ∈ steps, step.regional = true) :
    let before := ((Machine.fresh page).run logging steps).2
    (∀ id call inThread error, call.builds = true →
      let next := before.step logging (.library (.region id call) inThread)
      next.2.host.BelowLimit → next.1.result = .error (.stop (.error error)) →
      next.2.slots = before.slots ∧
        if next.1.calls.any SysCall.refusesUnmap then
          LeftMapped page next.2.slots call before.host.memory next.2.host.memory
        else next.2.host.memory = before.host.memory) ∧
    (∀ id tries inThread, (∀ step ∈ tries, step.retries id = true) →
      let request := Step.library (.region id .makeExecutable) inThread
      let last := (before.run logging tries).2.step logging request
      let direct := { before with host := { before.host with plans := [] } }.step logging request
      last.2.host.BelowLimit → last.1.result = .ok .unit →
      direct.1.result = .ok .unit ∧ last.2.host.memory = direct.2.host.memory ∧
        last.2.slots = direct.2.slots) := by
  intro before
  have reached : ∀ {later : List Step}, (before.run logging later).2.host.BelowLimit →
      Sound page before.host before.slots.region?
        ([] ++ (Machine.fresh page).abandoned logging steps) :=
    fun below => Machine.run_sound logging regional (Machine.fresh_sound power)
      (Host.BelowLimit.of_run below)
  refine ⟨?_, ?_⟩
  · intro id call inThread error builds next below failed
    have sound := @reached [.library (.region id call) inThread] below
    obtain ⟨result, calls, host, slots, stepped, turn⟩ := sound.step_turn logging id call inThread
    rw [stepped.host_eq] at below
    rw [stepped.host_eq, stepped.slots_eq, stepped.calls_eq]
    obtain ⟨rfl, memory⟩ := turn.atomic sound below builds (stepped.result_eq.symm.trans failed)
    exact ⟨rfl, memory⟩
  · intro id tries inThread retries request last direct below granted
    have within := @Host.BelowLimit.of_run (before.run logging tries).2 logging [request] below
    exact Machine.retried_eq_direct logging inThread retries (reached within) below granted

/-- A script that leaves a writable region, and a host that will refuse two changes of access and
one release. -/
def refusalsAhead : List Step := [
  .library (.region 0 (.allocate 5)) false,
  .library (.region 0 (.write 1 [0xc3])) false,
  .host (.plan ⟨0, .refuse .protect .accessDenied⟩),
  .host (.plan ⟨0, .refuse .protect .outOfMemory⟩),
  .host (.plan ⟨0, .refuse .unmap .invalidArgument⟩)]

/-- The machine after `refusalsAhead`. -/
def Machine.beforeRefusals : Machine := ((Machine.fresh 4096).run .silent refusalsAhead).2

/-- The step that fails twice. -/
def refusedAttempt : Step := .library (.region 0 .makeExecutable) false

theorem failed_calls_change_nothing_refusalsAhead :
    let before := Machine.beforeRefusals
    let outside := before.step .silent (.library (.region 0 (.write 4 [1, 2])) true)
    let unfinished := before.step .silent (.library (.region 1 (.ofCode [0xc3])) false)
    let last := (before.run .silent [refusedAttempt, refusedAttempt]).2.step .silent refusedAttempt
    let direct :=
      { before with host := { before.host with plans := [] } }.step .silent refusedAttempt
    outside.1.result = .error (.stop (.error .invalidArgument)) ∧
    outside.2.slots = before.slots ∧ outside.2.host.memory = before.host.memory ∧
    unfinished.1.result = .error (.stop (.error (.unsupportedTransition .accessDenied))) ∧
    unfinished.2.slots = before.slots ∧
    LeftMapped 4096 unfinished.2.slots (.ofCode [0xc3]) before.host.memory
      unfinished.2.host.memory ∧
    last.1.result = .ok .unit ∧ direct.1.result = .ok .unit ∧
    last.2.host.memory = direct.2.host.memory ∧ last.2.slots = direct.2.slots := by
  obtain ⟨atomic, retried⟩ := @failed_calls_change_nothing .silent 4096 (by decide) refusalsAhead
    (by decide)
  have written : (Machine.beforeRefusals.step .silent
      (.library (.region 0 (.write 4 [1, 2])) true)).1.result =
        .error (.stop (.error .invalidArgument)) := by rfl
  have built : (Machine.beforeRefusals.step .silent
      (.library (.region 1 (.ofCode [0xc3])) false)).1.result =
        .error (.stop (.error (.unsupportedTransition .accessDenied))) := by rfl
  have granted :
      ((Machine.beforeRefusals.run .silent [refusedAttempt, refusedAttempt]).2.step .silent
        refusedAttempt).1.result = .ok .unit := by rfl
  have writeAtomic := atomic 0 (.write 4 [1, 2]) true .invalidArgument rfl
    (by unfold Host.BelowLimit; decide +kernel) written
  have buildAtomic := atomic 1 (.ofCode [0xc3]) false (.unsupportedTransition .accessDenied) rfl
    (by unfold Host.BelowLimit; decide +kernel) built
  rw [if_neg (by decide +kernel)] at writeAtomic
  rw [if_pos (by decide +kernel)] at buildAtomic
  exact ⟨written, writeAtomic.1, writeAtomic.2, built, buildAtomic.1, buildAtomic.2, granted,
    retried 0 [refusedAttempt, refusedAttempt] false (by decide)
      (by unfold Host.BelowLimit; decide +kernel) granted⟩

end ExecMemory
