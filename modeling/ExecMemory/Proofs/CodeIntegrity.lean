import ExecMemory.Proofs.PageFrames

/-!
# Code integrity

Once a region is executable, nothing that follows changes it for as long as it lives: not its state,
not its permissions and not a byte of its pages, the padding behind its last byte included.

* `Intact` compares a machine with an earlier one. One step keeps it (`Machine.step_intact`): a call
  on the region itself does nothing, a call on another one does not reach its pages, and a poke that
  succeeds has no byte on a page that is not writable.
* A poke that does have one faults (`Machine.poke_faults`).
* The bytes that are kept are those that were there before the region became executable.
-/

namespace ExecMemory

/-- The step ends the region of the slot. -/
def Step.ends (id : SlotId) : Step → Bool
  | .library (.region other call) _ => other == id && call.ends
  | _ => false

/-- The slot still holds the region, and its pages are those of an earlier machine. -/
structure Intact (page : UInt64) (id : SlotId) (region : Region) (start now : Machine) : Prop where
  held : now.slots.get? id = some (.region region)
  pages : ∀ n ∈ region.span page, now.host.memory.page? n = start.host.memory.page? n

/-- The pages of an executable region are not writable. -/
theorem Region.Owned.readExec {region : Region} {page : UInt64} {host : Host}
    (owned : region.Owned page host) (executable : region.state = .executable) {n : Nat}
    (member : n ∈ region.span page) : host.memory.perms? n = some .readExec := by
  rw [owned.mapped n member, executable]
  rfl

namespace Machine

variable {page : UInt64} {start machine : Machine} {abandoned : List Region} {id : SlotId}
  {region : Region}

/-- A step that leaves the slot and the pages alone. -/
theorem Steps.intact {logging : Logging} {step : Step} {result : Except Halt Value}
    {calls : List SysCall} {host : Host} {slots : Slots}
    (steps : machine.Steps logging step result calls host slots)
    (sameSlot : slots.get? id = machine.slots.get? id)
    (samePages : ∀ n ∈ region.span page, host.memory.page? n = machine.host.memory.page? n)
    (intact : Intact page id region start machine) :
    Intact page id region start (machine.step logging step).2 := by
  refine ⟨?_, fun n member => ?_⟩
  · rw [steps.slots_eq, sameSlot]
    exact intact.held
  · rw [steps.host_eq, samePages n member]
    exact intact.pages n member

/-- **One step.** -/
theorem step_intact (logging : Logging) {step : Step} (stays : step.ends id = false)
    (regional : step.regional = true) (executable : region.state = .executable)
    (sound : Sound page machine.host machine.slots.region? abandoned)
    (below : (machine.step logging step).2.host.BelowLimit)
    (intact : Intact page id region start machine) :
    Intact page id region start (machine.step logging step).2 := by
  have live := Slots.region?_eq_some_iff.mpr intact.held
  have owned := sound.owned id region live
  cases step with
  | host action =>
      obtain ⟨result, host, steps, turn⟩ := hostStep_turn logging machine action
      refine steps.intact rfl (fun n member => ?_) intact
      cases turn with
      | poked written =>
          exact Memory.page?_write?_of_locked written (owned.readExec executable member) rfl
      | _ => rfl
  | library call inThread =>
      cases call with
      | region other call =>
          obtain ⟨result, calls, host, slots, steps, turn⟩ :=
            sound.step_turn logging other call inThread
          rw [steps.host_eq] at below
          by_cases own : id = other
          · subst own
            have keeps : call.ends = false := by simpa [Step.ends] using stays
            obtain ⟨rfl, rfl⟩ := turn.eq_of_executable intact.held executable keeps
            exact steps.intact rfl (fun _ _ => rfl) intact
          · refine steps.intact (turn.get?_of_ne own) (fun n member => ?_) intact
            have mapped := Memory.isSome_page?_of_perms? (owned.mapped n member)
            refine turn.page?_eq sound below mapped fun neighbour held => ?_
            exact sound.apart id other region neighbour own live held n member
      | _ => cases regional

/-- **Every script.** -/
theorem run_intact (logging : Logging) {steps : List Step}
    (stays : ∀ step ∈ steps, step.ends id = false) (regional : ∀ step ∈ steps, step.regional = true)
    (executable : region.state = .executable)
    (sound : Sound page machine.host machine.slots.region? abandoned)
    (below : (machine.run logging steps).2.host.BelowLimit)
    (intact : Intact page id region start machine) :
    Intact page id region start (machine.run logging steps).2 := by
  induction steps generalizing machine abandoned with
  | nil => exact intact
  | cons step later ih =>
      have here := @Host.BelowLimit.of_run (machine.step logging step).2 logging later below
      have now := regional step List.mem_cons_self
      exact ih (fun other member => stays other (List.mem_cons_of_mem _ member))
        (fun other member => regional other (List.mem_cons_of_mem _ member))
        (step_sound logging now sound here) below
        (step_intact logging (stays step List.mem_cons_self) now executable sound here intact)

/-- A poke with a byte on a page that is not writable faults and does nothing at all. -/
theorem poke_faults (logging : Logging) {place : Place} {bytes : List UInt8} {address : UInt64}
    {target : Nat} {perms : Perms} (found : place.address? machine.slots = some address)
    (low : address.toNat ≤ target) (high : target < address.toNat + bytes.length)
    (mapped : machine.host.memory.perms? (target / pageBytes) = some perms)
    (locked : perms.write = false) :
    machine.step logging (.host (.poke place bytes)) =
      (machine.untouched (.stop .fault) machine.lastError, machine) := by
  have refused : machine.host.memory.write? address.toNat bytes.length (byteAt bytes) = none :=
    Memory.write?_of_locked low high mapped locked
  obtain ⟨lastError, records, ran⟩ : Op.Ends (storeBytes address.toNat bytes) logging
      (.start machine.host machine.lastError) (.error .fault) machine.host [] :=
    Op.ends_store_fault rfl refused
  have stepped : (Step.host (.poke place bytes)).run.exec logging
      (.start machine.host machine.lastError, machine.slots) =
      (.error (.stop .fault), ⟨machine.host, lastError, [], records⟩, machine.slots) := by
    have noCalls : (Context.start machine.host machine.lastError).calls = [] := rfl
    show (HostAction.poke place bytes).run.exec logging (_, machine.slots) = _
    unfold HostAction.run
    rw [Effect.exec_bind, exec_resolve found]
    simp [StepM.op, exec_ofOp, ran, noCalls]
  unfold Machine.step
  simp only [Step.inOwnThread, Bool.false_eq_true, if_false]
  rw [stepped]

end Machine

/-! ## Becoming executable -/

section Turns

variable {page : UInt64} {host later : Host} {slots slots' : Slots} {id : SlotId}
  {result : Except Halt Value} {calls : List SysCall} {abandoned : List Region}

/-- A region from code holds the code, and zeros behind it. -/
theorem Turn.ofCode_content {code : List UInt8} {base : UInt64}
    (turn : Turn host slots id (.ofCode code) result calls later slots')
    (sound : Sound page host slots.region? abandoned) (below : later.BelowLimit)
    (made : result = .ok (.address base)) :
    slots'.get? id = some (.region ⟨base, .ofNat code.length, .executable⟩) ∧
      ∀ address, address / pageBytes ∈ Region.span ⟨base, .ofNat code.length, .executable⟩ page →
        later.memory.byte? address = some (byteAt code (address - base.toNat)) := by
  obtain rfl := sound.pageSize
  cases turn with
  | compiled empty rounds called notNull fits written changed =>
      cases made
      have placed := sound.placed_code rounds called notNull fits written
      have before := below.of_call changed
      have filled :=
        (sound.call_map (Slots.region?_of_none empty) rounds called notNull before).withBytes
        (Memory.perms?_write? written)
      refine ⟨?_, fun address member => ?_⟩
      · rw [Slots.get?_insert, if_pos rfl]
      · cases filled.answers_protect (Function.update_self _ _ _) rounds changed with
        | granted taken => exact Memory.byte?_protectPages.trans (placed.byte?_eq member)
  | _ => cases made

end Turns

/-- Making a region executable changes no byte of memory. -/
theorem Machine.makeExecutable_keeps_bytes (logging : Logging) {page : UInt64} {machine : Machine}
    {abandoned : List Region} {id : SlotId} (inThread : Bool)
    (sound : Sound page machine.host machine.slots.region? abandoned) :
    let next := machine.step logging (.library (.region id .makeExecutable) inThread)
    next.1.result = .ok .unit →
    ∃ region, machine.slots.get? id = some (.region region) ∧ region.state = .writable ∧
      next.2.slots.get? id = some (.region { region with state := .executable }) ∧
      ∀ address, next.2.host.memory.byte? address = machine.host.memory.byte? address := by
  intro next granted
  obtain ⟨result, calls, host, slots, steps, turn⟩ :=
    sound.step_turn logging id .makeExecutable inThread
  rw [steps.host_eq, steps.slots_eq]
  rcases turn.makeExecutable_cases sound with
    ⟨_, _, failed, _⟩ | ⟨region, held, writable, memory, changed, _⟩
  · exact absurd (steps.result_eq.symm.trans granted) failed
  · refine ⟨region, held, writable, ?_, fun address => ?_⟩
    · rw [changed, Slots.get?_insert, if_pos rfl]
    · rw [memory]
      exact Memory.byte?_protectPages

/-- **Code integrity.** For any script of region calls, pokes, peeks and planned refusals, cut
anywhere, on a host that reports a power of two as its page size and hands out memory below the
address limit:

* a region that is executable at the cut and is not ended behind it is at the end the same region,
  executable, with its base as its entry, and all of its pages have the permissions and the bytes
  they had at the cut. Any poke with a byte on one of them, wherever it starts, faults and changes
  nothing;
* making a region executable changes no byte of memory;
* a region that was made from code is executable, and its pages hold the code and zeros behind
  it. -/
theorem executable_code_is_intact (logging : Logging) {page : UInt64}
    (power : page.toNat.isPowerOfTwo) {first later : List Step}
    (regional : ∀ step ∈ first ++ later, step.regional = true)
    (below : ((Machine.fresh page).run logging (first ++ later)).2.host.BelowLimit) :
    let start := ((Machine.fresh page).run logging first).2
    let final := (start.run logging later).2
    (∀ id region, start.slots.get? id = some (.region region) → region.state = .executable →
      (∀ step ∈ later, step.ends id = false) →
      final.slots.get? id = some (.region region) ∧ region.entry? = some region.base ∧
      (∀ n ∈ region.span page, ∃ bytes,
        start.host.memory.page? n = some ⟨.readExec, bytes⟩ ∧
        final.host.memory.page? n = some ⟨.readExec, bytes⟩) ∧
      ∀ place bytes address target, place.address? final.slots = some address →
        address.toNat ≤ target → target < address.toNat + bytes.length →
        target / pageBytes ∈ region.span page →
        let poked := final.step logging (.host (.poke place bytes))
        poked.1.result = .error (.stop .fault) ∧ poked.2 = final) ∧
    (∀ id inThread,
      let next := start.step logging (.library (.region id .makeExecutable) inThread)
      next.1.result = .ok .unit →
      ∃ region, start.slots.get? id = some (.region region) ∧ region.state = .writable ∧
        next.2.slots.get? id = some (.region { region with state := .executable }) ∧
        ∀ address, next.2.host.memory.byte? address = start.host.memory.byte? address) ∧
    (∀ id code base inThread,
      let next := start.step logging (.library (.region id (.ofCode code)) inThread)
      next.2.host.BelowLimit → next.1.result = .ok (.address base) →
      next.2.slots.get? id = some (.region ⟨base, .ofNat code.length, .executable⟩) ∧
        ∀ address, address / pageBytes ∈ Region.span ⟨base, .ofNat code.length, .executable⟩ page →
          next.2.host.memory.byte? address = some (byteAt code (address - base.toNat))) := by
  intro start final
  have run : ((Machine.fresh page).run logging (first ++ later)).2 = final := by
    rw [Machine.run_append]
  rw [run] at below
  have earlier : start.host.BelowLimit := below.of_run
  have regionalLater : ∀ step ∈ later, step.regional = true :=
    fun step member => regional step (List.mem_append_right _ member)
  have soundStart := Machine.run_sound logging
    (fun step member => regional step (List.mem_append_left _ member)) (Machine.fresh_sound power)
    earlier
  have soundFinal := Machine.run_sound logging regionalLater soundStart below
  refine ⟨?_, ?_, ?_⟩
  · intro id region held executable stays
    have intact := Machine.run_intact logging stays regionalLater executable soundStart below
      ⟨held, fun _ _ => rfl⟩
    have owned := soundFinal.owned id region (Slots.region?_eq_some_iff.mpr intact.held)
    refine ⟨intact.held, ?_, ?_, ?_⟩
    · unfold Region.entry?
      rw [executable]
    · intro n member
      obtain ⟨⟨_, bytes⟩, found, rfl⟩ :=
        Option.map_eq_some_iff.mp (owned.readExec executable member)
      exact ⟨bytes, (intact.pages n member).symm.trans found, found⟩
    · intro place bytes address target found low high member poked
      have faulted : poked = _ :=
        Machine.poke_faults logging found low high (owned.readExec executable member) rfl
      rw [faulted]
      exact ⟨rfl, rfl⟩
  · intro id inThread
    exact Machine.makeExecutable_keeps_bytes logging inThread soundStart
  · intro id code base inThread next within made
    obtain ⟨result, calls, host, slots, steps, turn⟩ :=
      soundStart.step_turn logging id (.ofCode code) inThread
    rw [steps.host_eq] at within
    rw [steps.host_eq, steps.slots_eq]
    exact turn.ofCode_content soundStart within (steps.result_eq.symm.trans made)

/-- A script that makes a region executable at the second attempt. -/
def codeBuilt : List Step := [
  .library (.region 0 (.allocate 5000)) false,
  .library (.region 0 (.write 4999 [0xc3])) false,
  .host (.plan ⟨0, .refuse .protect .accessDenied⟩),
  .library (.region 0 .makeExecutable) true,
  .library (.region 0 .makeExecutable) false]

/-- What may follow: another region comes, is written, overwritten and goes, and the first one is
written in vain. -/
def othersAtWork : List Step := [
  .library (.region 1 (.allocate 4096)) false,
  .library (.region 1 (.fill 9)) false,
  .host (.poke (.slot 1 100) [1, 2]),
  .library (.region 0 (.write 0 [1])) false,
  .library (.region 1 .discard) false]

theorem executable_code_is_intact_othersAtWork :
    let start := ((Machine.fresh 4096).run .silent codeBuilt).2
    let final := (start.run .silent othersAtWork).2
    let region : Region := ⟨0x10000000000, 5000, .executable⟩
    start.slots.get? 0 = some (.region region) ∧ final.slots.get? 0 = some (.region region) ∧
    (∀ n ∈ region.span 4096, ∃ bytes,
      start.host.memory.page? n = some ⟨.readExec, bytes⟩ ∧
      final.host.memory.page? n = some ⟨.readExec, bytes⟩) ∧
    -- the padding behind the last byte is protected as well
    (final.step .silent (.host (.poke (.slot 0 8191) [7, 7]))).1.result =
      .error (.stop .fault) := by
  obtain ⟨intact, _, _⟩ :=
    @executable_code_is_intact .silent 4096 (by decide) codeBuilt othersAtWork (by decide)
    (by unfold Host.BelowLimit; decide +kernel)
  have held : ((Machine.fresh 4096).run .silent codeBuilt).2.slots.get? 0 =
      some (.region ⟨0x10000000000, 5000, .executable⟩) := by decide +kernel
  obtain ⟨stillHeld, _, pages, pokes⟩ := intact 0 _ held rfl (by decide)
  refine ⟨held, stillHeld, pages, ?_⟩
  exact (pokes (.slot 0 8191) [7, 7] 0x10000001fff 0x10000001fff (by decide +kernel) (by decide)
    (by decide) (by decide +kernel)).1

end ExecMemory
