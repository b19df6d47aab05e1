import ExecMemory.Proofs.PageFrames

/-!
# Calls on different regions commute

Two calls on two regions can be made in either order: each answers the same, and slots and memory
end up the same.

* `RegionOp.effect` says what a call does to a region and to memory when the host grants everything,
  and `Sound.acts` that it does so in any sound machine whose host plans no fault.
* A call looks only at pages of its own region (`RegionOp.effect_congr`) and changes only those
  (`RegionOp.effect_outside`).
* The regions of different slots have no common page, so neither call sees what the other one does
  (`Sound.run_two`), and memory does not tell which one came first (`RegionOp.effect_comm`).
-/

namespace ExecMemory

/-- The calls that use a region or end it. -/
inductive RegionOp where
  | write (offset : UInt64) (bytes : List UInt8)
  | fill (value : UInt8)
  | read (start : UInt64) (stop : Option UInt64)
  | makeExecutable
  | free
  | discard

/-- The call. -/
def RegionOp.call : RegionOp → RegionCall
  | .write offset bytes => .write offset bytes
  | .fill value => .fill value
  | .read start stop => .read start stop
  | .makeExecutable => .makeExecutable
  | .free => .free
  | .discard => .discard

/-! ## What a call does -/

/-- What comes of a call: its result, memory, and the region, if there still is one. -/
structure CallEffect where
  result : Except Halt Value
  memory : Memory
  region : Option Region

/-- A call that changes bytes or access is refused once the region is executable. -/
def Region.ifWritable (region : Region) (memory : Memory) (effect : CallEffect) : CallEffect :=
  match region.state with
  | .writable => effect
  | .executable => ⟨.error (.stop (.error .invalidState)), memory, some region⟩

/-- What comes of a call on a region when the host grants what it is asked for. -/
def RegionOp.effect (page : UInt64) (region : Region) (memory : Memory) : RegionOp → CallEffect
  | .write offset bytes =>
    region.ifWritable memory <|
      if offset.toNat + bytes.length ≤ region.size.toNat then
        ⟨.ok .unit, memory.overwrite (region.base.toNat + offset.toNat) bytes.length (byteAt bytes),
          some region⟩
      else ⟨.error (.stop (.error .invalidArgument)), memory, some region⟩
  | .fill value =>
    region.ifWritable memory
      ⟨.ok (.size region.size), memory.overwrite region.base.toNat region.size.toNat fun _ => value,
        some region⟩
  | .read start stop =>
    match Region.checkRange start (stop.getD region.size) region.size with
    | .error panic => ⟨.error (.stop (.panic panic)), memory, some region⟩
    | .ok () =>
      ⟨.ok (.bytes (memory.load (region.base.toNat + start.toNat)
        ((stop.getD region.size).toNat - start.toNat))), memory, some region⟩
  | .makeExecutable =>
    region.ifWritable memory
      ⟨.ok .unit, memory.protectPages (region.span page) .readExec,
        some { region with state := .executable }⟩
  | .free | .discard => ⟨.ok .unit, memory.unmapPages (region.span page), none⟩

/-! ## Calls stay on their own pages -/

/-- All bytes of a region are on its pages. -/
def Region.OnPages (region : Region) (page : UInt64) : Prop :=
  ∀ address, region.base.toNat ≤ address → address < region.base.toNat + region.size.toNat →
    address / pageBytes ∈ region.span page

/-- Bytes are read from the pages they are on. -/
theorem Memory.load_congr {memory other : Memory} {start length : Nat}
    (same : ∀ address, start ≤ address → address < start + length →
      memory.page? (address / pageBytes) = other.page? (address / pageBytes)) :
    memory.load start length = other.load start length := by
  unfold load
  refine List.map_congr_left fun i member => ?_
  have inside := List.mem_range.mp member
  unfold byte?
  rw [same (start + i) (Nat.le_add_right _ _) (by omega)]

namespace RegionOp

variable {page : UInt64} {region : Region} {memory other : Memory} (onPages : region.OnPages page)
include onPages

/-- A call leaves all other pages alone. -/
theorem effect_outside (op : RegionOp) {n : Nat} (outside : n ∉ region.span page) :
    (op.effect page region memory).memory.page? n = memory.page? n := by
  have away : ∀ address, region.base.toNat ≤ address →
      address < region.base.toNat + region.size.toNat → address / pageBytes ≠ n := by
    intro address low high onPage
    exact outside (onPage ▸ onPages address low high)
  cases op with
  | write offset bytes =>
      simp only [effect, Region.ifWritable]
      split
      · split
        · rename_i inside
          exact Memory.page?_overwrite_of_away fun address low high =>
            away address (by omega) (by omega)
        · rfl
      · rfl
  | fill value =>
      simp only [effect, Region.ifWritable]
      split
      · exact @Memory.page?_overwrite_of_away memory _ _ n (fun _ => value) away
      · rfl
  | read start stop =>
      simp only [effect]
      split <;> rfl
  | makeExecutable =>
      simp only [effect, Region.ifWritable]
      split
      · exact if_neg outside
      · rfl
  | free => exact if_neg outside
  | discard => exact if_neg outside

/-- What comes of a call depends on the pages of its region only. -/
theorem effect_congr (op : RegionOp)
    (same : ∀ n ∈ region.span page, memory.page? n = other.page? n) :
    (op.effect page region memory).result = (op.effect page region other).result ∧
      (op.effect page region memory).region = (op.effect page region other).region ∧
      ∀ n ∈ region.span page, (op.effect page region memory).memory.page? n =
        (op.effect page region other).memory.page? n := by
  -- writing, protecting and unmapping act on each page by itself
  have overwritten : ∀ start length content, ∀ n ∈ region.span page,
      (memory.overwrite start length content).page? n =
        (other.overwrite start length content).page? n := by
    intro start length content n member
    show (memory.page? n).map _ = (other.page? n).map _
    rw [same n member]
  cases op with
  | write offset bytes =>
      simp only [effect, Region.ifWritable]
      split
      · split
        · exact ⟨rfl, rfl, overwritten _ _ _⟩
        · exact ⟨rfl, rfl, same⟩
      · exact ⟨rfl, rfl, same⟩
  | fill value =>
      simp only [effect, Region.ifWritable]
      split
      · exact ⟨rfl, rfl, overwritten _ _ fun _ => value⟩
      · exact ⟨rfl, rfl, same⟩
  | read start stop =>
      simp only [effect]
      cases range : Region.checkRange start (stop.getD region.size) region.size with
      | error panic => exact ⟨rfl, rfl, same⟩
      | ok _ =>
          obtain ⟨ordered, inside⟩ := Region.checkRange_eq_ok_iff.mp range
          rw [UInt64.le_iff_toNat_le] at ordered inside
          refine ⟨?_, rfl, same⟩
          refine congrArg (fun bytes => Except.ok (Value.bytes bytes)) (Memory.load_congr ?_)
          intro address low high
          exact same _ (onPages address (by omega) (by omega))
  | makeExecutable =>
      simp only [effect, Region.ifWritable]
      split
      · refine ⟨rfl, rfl, fun n member => ?_⟩
        simp only [Memory.page?_protectPages, same n member]
      · exact ⟨rfl, rfl, same⟩
  | free =>
      refine ⟨rfl, rfl, fun n member => ?_⟩
      simp only [effect, Memory.page?_unmapPages, same n member]
  | discard =>
      refine ⟨rfl, rfl, fun n member => ?_⟩
      simp only [effect, Memory.page?_unmapPages, same n member]

end RegionOp

/-- **What two calls do on regions without a common page** does not depend on their order. -/
theorem RegionOp.effect_comm (a b : RegionOp) {page : UInt64} {one two : Region} {memory : Memory}
    (onPagesOne : one.OnPages page) (onPagesTwo : two.OnPages page)
    (apart : (one.span page).Disjoint (two.span page)) :
    (b.effect page two (a.effect page one memory).memory).memory =
      (a.effect page one (b.effect page two memory).memory).memory := by
  apply Memory.ext
  funext n
  by_cases inOne : n ∈ one.span page
  · -- the other call leaves this page alone, before or after
    have seen : ∀ m ∈ one.span page,
        (b.effect page two memory).memory.page? m = memory.page? m := fun m member =>
      b.effect_outside onPagesTwo (apart m member)
    rw [b.effect_outside onPagesTwo (apart n inOne)]
    exact ((a.effect_congr onPagesOne seen).2.2 n inOne).symm
  · rw [a.effect_outside onPagesOne inOne]
    by_cases inTwo : n ∈ two.span page
    · have seen : ∀ m ∈ two.span page,
          (a.effect page one memory).memory.page? m = memory.page? m := fun m member =>
        a.effect_outside onPagesOne (apart.symm m member)
      exact (b.effect_congr onPagesTwo seen).2.2 n inTwo
    · rw [b.effect_outside onPagesTwo inTwo, b.effect_outside onPagesTwo inTwo,
        a.effect_outside onPagesOne inOne]

/-! ## Calls in a sound machine -/

theorem Sound.onPages {page : UInt64} {host : Host} {live : SlotId → Option Region}
    {abandoned : List Region} (sound : Sound page host live abandoned) {id : SlotId}
    {region : Region}
    (held : live id = some region) : region.OnPages page :=
  fun _ => (sound.owned id region held).page_mem sound.power

/-- Without a planned fault, what can be granted is granted. -/
theorem Granted.of_quiet {host later : Host} {kind : CallKind} {memory : Memory} {reply : Reply}
    (granted : Granted host kind memory reply later) (quiet : host.plans = []) :
    reply = .ok 0 ∧ later = { host with memory } := by
  cases granted with
  | granted taken =>
      rw [quiet] at taken
      cases taken
      rw [← quiet]
      exact ⟨rfl, rfl⟩
  | refused taken =>
      rw [quiet] at taken
      cases taken

/-- All of a region can be read, so reading from one gives bytes or panics about the range. -/
theorem Region.Owned.effect_read {page : UInt64} {host : Host} {region : Region}
    (owned : region.Owned page host) (power : page.toNat.isPowerOfTwo) (start : UInt64)
    (stop : Option UInt64) :
    (RegionOp.read start stop).effect page region host.memory =
      ⟨region.readAnswer host.memory start (stop.getD region.size), host.memory, some region⟩ := by
  simp only [RegionOp.effect, Region.readAnswer]
  cases range : Region.checkRange start (stop.getD region.size) region.size with
  | error panic => rfl
  | ok _ =>
      obtain ⟨ordered, inside⟩ := Region.checkRange_eq_ok_iff.mp range
      rw [UInt64.le_iff_toNat_le] at ordered inside
      have permitted := owned.permits power region.state.readable_perms
        (by omega : start.toNat + ((stop.getD region.size).toNat - start.toNat) ≤ region.size.toNat)
      simp only [Memory.read?, if_pos permitted]

section Turns

variable {page : UInt64} {host later : Host} {slots slots' : Slots} {abandoned : List Region}
  {id : SlotId} {region : Region} {result : Except Halt Value} {calls : List SysCall}

/-- A call on a region does what its effect says. -/
theorem Turn.effect (op : RegionOp) (turn : Turn host slots id op.call result calls later slots')
    (sound : Sound page host slots.region? abandoned) (quiet : host.plans = [])
    (held : slots.get? id = some (.region region)) :
    let effect := op.effect page region host.memory
    result = effect.result ∧ later = { host with memory := effect.memory } ∧
      slots'.get? id = effect.region.map Slot.region := by
  have live := Slots.region?_eq_some_iff.mpr held
  have owned := sound.owned id region live
  obtain rfl := sound.pageSize
  intro effect
  cases op with
  | write offset bytes =>
      change Turn host slots id (.write offset bytes) result calls later slots' at turn
      cases turn with
      | locked changes found executable =>
          cases held.symm.trans found
          simp [effect, RegionOp.effect, Region.ifWritable, executable, held]
      | outside found writable outside =>
          cases held.symm.trans found
          simp [effect, RegionOp.effect, Region.ifWritable, writable, outside, held]
      | written found writable inside written =>
          cases held.symm.trans found
          obtain ⟨_, rfl⟩ := Memory.write?_eq_some_iff.mp written
          simp [effect, RegionOp.effect, Region.ifWritable, writable, inside, held]
      | writeFault found writable inside refused =>
          cases held.symm.trans found
          have possible := owned.write_isSome sound.power writable inside (byteAt bytes)
          rw [refused] at possible
          cases possible
      | _ => simp_all [RegionCall.newSize?]
  | fill value =>
      change Turn host slots id (.fill value) result calls later slots' at turn
      cases turn with
      | locked changes found executable =>
          cases held.symm.trans found
          simp [effect, RegionOp.effect, Region.ifWritable, executable, held]
      | filled found writable written =>
          cases held.symm.trans found
          obtain ⟨_, rfl⟩ := Memory.write?_eq_some_iff.mp written
          simp [effect, RegionOp.effect, Region.ifWritable, writable, held]
      | fillFault found writable refused =>
          cases held.symm.trans found
          have possible := @Region.Owned.write_isSome _ _ _ owned sound.power writable 0 _
            (Nat.le_of_eq (Nat.zero_add _)) fun _ => value
          rw [Nat.add_zero, refused] at possible
          cases possible
      | _ => simp_all [RegionCall.newSize?]
  | read start stop =>
      change Turn host slots id (.read start stop) result calls later slots' at turn
      cases turn with
      | read found =>
          cases held.symm.trans found
          simp [effect, owned.effect_read sound.power start stop, held]
      | locked changes => cases changes
      | _ => simp_all [RegionCall.newSize?]
  | makeExecutable =>
      change Turn host slots id .makeExecutable result calls later slots' at turn
      cases turn with
      | locked changes found executable =>
          cases held.symm.trans found
          simp [effect, RegionOp.effect, Region.ifWritable, executable, held]
      | madeExecutable found writable rounds called =>
          cases held.symm.trans found
          obtain ⟨_, rfl⟩ := (sound.answers_protect live rounds called).of_quiet quiet
          simp [effect, RegionOp.effect, Region.ifWritable, writable, owned.ofRange_eq,
            Slots.get?_insert]
      | notMadeExecutable found writable rounds called =>
          cases held.symm.trans found
          obtain ⟨granted, _⟩ := (sound.answers_protect live rounds called).of_quiet quiet
          cases granted
      | _ => simp_all [RegionCall.newSize?]
  | free =>
      change Turn host slots id .free result calls later slots' at turn
      cases turn with
      | freed found rounds called =>
          cases held.symm.trans found
          obtain ⟨_, rfl⟩ := (sound.answers_unmap live rounds called).of_quiet quiet
          simp [effect, RegionOp.effect, owned.ofRange_eq, Slots.get?_erase]
      | freeRefused found rounds called =>
          cases held.symm.trans found
          obtain ⟨granted, _⟩ := (sound.answers_unmap live rounds called).of_quiet quiet
          cases granted
      | locked changes => cases changes
      | _ => simp_all [RegionCall.newSize?]
  | discard =>
      change Turn host slots id .discard result calls later slots' at turn
      cases turn with
      | discarded found rounds called =>
          cases held.symm.trans found
          obtain ⟨_, rfl⟩ := (sound.answers_unmap live rounds called).of_quiet quiet
          simp [effect, RegionOp.effect, owned.ofRange_eq, Slots.get?_erase]
      | locked changes => cases changes
      | _ => simp_all [RegionCall.newSize?]

end Turns

/-- The step that makes a call on the region of a slot. -/
def RegionOp.step (op : RegionOp) (id : SlotId) (inThread : Bool) : Step :=
  .library (.region id op.call) inThread

/-- A step answers and leaves the machine as an effect on the region of one slot says. -/
structure Machine.Acts (logging : Logging) (machine : Machine) (step : Step) (id : SlotId)
    (effect : CallEffect) : Prop where
  result : (machine.step logging step).1.result = effect.result
  host : (machine.step logging step).2.host = { machine.host with memory := effect.memory }
  own : (machine.step logging step).2.slots.get? id = effect.region.map Slot.region
  others : ∀ other, other ≠ id →
    (machine.step logging step).2.slots.get? other = machine.slots.get? other

section Steps

variable {page : UInt64} {machine : Machine} {abandoned : List Region}
  (sound : Sound page machine.host machine.slots.region? abandoned)
  (quiet : machine.host.plans = [])
  (logging : Logging)
include sound quiet

/-- **One call**: it has its effect, whatever the last error, the log and the thread are. -/
theorem Sound.acts (op : RegionOp) (inThread : Bool) {id : SlotId} {region : Region}
    (held : machine.slots.get? id = some (.region region)) :
    machine.Acts logging (op.step id inThread) id (op.effect page region machine.host.memory) := by
  obtain ⟨result, calls, host, slots, steps, turn⟩ := sound.step_turn logging id op.call inThread
  obtain ⟨answers, leaves, own⟩ := turn.effect op sound quiet held
  refine ⟨steps.result_eq.trans answers, steps.host_eq.trans leaves, ?_, fun other different => ?_⟩
  · rw [RegionOp.step, steps.slots_eq]
    exact own
  · rw [RegionOp.step, steps.slots_eq]
    exact turn.get?_of_ne different

/-- **Two calls**: the second one does to its region what it would have done without the first. -/
theorem Sound.run_two (below : machine.host.BelowLimit) (a b : RegionOp) (threadA threadB : Bool)
    {idA idB : SlotId} (different : idA ≠ idB) {one two : Region}
    (heldA : machine.slots.get? idA = some (.region one))
    (heldB : machine.slots.get? idB = some (.region two)) :
    let effectA := a.effect page one machine.host.memory
    let effectB := b.effect page two machine.host.memory
    let both := machine.run logging [a.step idA threadA, b.step idB threadB]
    both.1.map Answer.result = [effectA.result, effectB.result] ∧
    both.2.host = { machine.host with memory := (b.effect page two effectA.memory).memory } ∧
    both.2.slots.get? idA = effectA.region.map Slot.region ∧
    both.2.slots.get? idB = effectB.region.map Slot.region ∧
    ∀ id, id ≠ idA → id ≠ idB → both.2.slots.get? id = machine.slots.get? id := by
  have liveA := Slots.region?_eq_some_iff.mpr heldA
  have liveB := Slots.region?_eq_some_iff.mpr heldB
  have apart := sound.apart idA idB one two different liveA liveB
  have first := sound.acts quiet logging a threadA heldA
  have sound' := Machine.step_sound logging (rfl : (a.step idA threadA).regional = true) sound
    (first.host ▸ below)
  have second := sound'.acts (first.host ▸ quiet) logging b threadB
    ((first.others idB different.symm).trans heldB)
  -- the first call has left the pages of the second region as they were
  have unseen : ∀ n ∈ two.span page,
      (a.effect page one machine.host.memory).memory.page? n = machine.host.memory.page? n :=
    fun n member => a.effect_outside (sound.onPages liveA) (apart.symm n member)
  obtain ⟨sameResult, sameRegion, _⟩ := b.effect_congr (sound.onPages liveB) unseen
  rw [first.host] at second
  intro effectA effectB both
  refine ⟨?_, ?_, ?_, ?_, ?_⟩
  · simp only [both, Machine.run_cons, Machine.run_nil, List.map_cons, List.map_nil, first.result,
      second.result]
    rw [sameResult]
  · refine second.host.trans ?_
    rw [first.host]
  · exact (second.others idA different).trans first.own
  · refine second.own.trans ?_
    rw [sameRegion]
  · intro id notA notB
    exact (second.others id notB).trans (first.others id notA)

end Steps

/-- **Calls on different regions commute.** After any script of region calls, pokes, peeks and
planned refusals, on a host that reports a power of two as its page size, hands out memory below the
address limit and has no refusal planned any more: of two calls on the regions of different slots,
made in either order and from any thread, each answers what it answers when it is made alone, and
both orders leave the same slots with the same regions and the same host, memory included. -/
theorem calls_on_regions_commute (logging : Logging) {page : UInt64}
    (power : page.toNat.isPowerOfTwo) {steps : List Step}
    (regional : ∀ step ∈ steps, step.regional = true)
    (below : ((Machine.fresh page).run logging steps).2.host.BelowLimit)
    (quiet : ((Machine.fresh page).run logging steps).2.host.plans = [])
    {idA idB : SlotId} (different : idA ≠ idB) {one two : Region}
    (heldA : ((Machine.fresh page).run logging steps).2.slots.get? idA = some (.region one))
    (heldB : ((Machine.fresh page).run logging steps).2.slots.get? idB = some (.region two))
    (a b : RegionOp) (threadA threadB : Bool) :
    let before := ((Machine.fresh page).run logging steps).2
    let stepA := a.step idA threadA
    let stepB := b.step idB threadB
    let ab := before.run logging [stepA, stepB]
    let ba := before.run logging [stepB, stepA]
    let aloneA := (before.step logging stepA).1.result
    let aloneB := (before.step logging stepB).1.result
    ab.1.map Answer.result = [aloneA, aloneB] ∧ ba.1.map Answer.result = [aloneB, aloneA] ∧
    (∀ id, ab.2.slots.get? id = ba.2.slots.get? id) ∧ ab.2.host = ba.2.host := by
  intro before stepA stepB ab ba aloneA aloneB
  have sound := Machine.run_sound logging regional (Machine.fresh_sound power) below
  have liveA := Slots.region?_eq_some_iff.mpr heldA
  have liveB := Slots.region?_eq_some_iff.mpr heldB
  obtain ⟨resultsAB, hostAB, ownA, ownB, othersAB⟩ :=
    sound.run_two quiet logging below a b threadA threadB different heldA heldB
  obtain ⟨resultsBA, hostBA, ownB', ownA', othersBA⟩ :=
    sound.run_two quiet logging below b a threadB threadA different.symm heldB heldA
  have onlyA := (sound.acts quiet logging a threadA heldA).result
  have onlyB := (sound.acts quiet logging b threadB heldB).result
  refine ⟨?_, ?_, fun id => ?_, ?_⟩
  · rw [resultsAB, ← onlyA, ← onlyB]
  · rw [resultsBA, ← onlyA, ← onlyB]
  · by_cases isA : id = idA
    · rw [isA]
      exact ownA.trans ownA'.symm
    by_cases isB : id = idB
    · rw [isB]
      exact ownB.trans ownB'.symm
    exact (othersAB id isA isB).trans (othersBA id isB isA).symm
  · rw [hostAB, hostBA, a.effect_comm b (sound.onPages liveA) (sound.onPages liveB)
      (sound.apart idA idB one two different liveA liveB)]

/-- A script that leaves a writable region next to an executable one. -/
def neighbours : List Step := [
  .library (.region 0 (.allocate 5000)) false,
  .host (.plan ⟨0, .refuse .protect .accessDenied⟩),
  .library (.region 0 .makeExecutable) true,
  .library (.region 1 (.ofCode [0xb8, 7, 0, 0, 0, 0xc3])) false]

theorem calls_on_regions_commute_neighbours :
    let before := ((Machine.fresh 4096).run .silent neighbours).2
    let fill := (RegionOp.fill 9).step 0 false
    let free := RegionOp.free.step 1 true
    let one := before.run .silent [fill, free]
    let other := before.run .silent [free, fill]
    before.slots.get? 0 = some (.region ⟨0x10000000000, 5000, .writable⟩) ∧
    before.slots.get? 1 = some (.region ⟨0x10000200000, 6, .executable⟩) ∧
    one.1.map Answer.result = [.ok (.size 5000), .ok .unit] ∧
    other.1.map Answer.result = [.ok .unit, .ok (.size 5000)] ∧
    (∀ id, one.2.slots.get? id = other.2.slots.get? id) ∧ one.2.host = other.2.host := by
  have heldA : ((Machine.fresh 4096).run .silent neighbours).2.slots.get? 0 =
      some (.region ⟨0x10000000000, 5000, .writable⟩) := by decide +kernel
  have heldB : ((Machine.fresh 4096).run .silent neighbours).2.slots.get? 1 =
      some (.region ⟨0x10000200000, 6, .executable⟩) := by decide +kernel
  have filled : (((Machine.fresh 4096).run .silent neighbours).2.step .silent
      ((RegionOp.fill 9).step 0 false)).1.result = .ok (.size 5000) := by rfl
  have freed : (((Machine.fresh 4096).run .silent neighbours).2.step .silent
      (RegionOp.free.step 1 true)).1.result = .ok .unit := by rfl
  obtain ⟨results, otherResults, slots, host⟩ := calls_on_regions_commute .silent (by decide)
    (by decide : ∀ step ∈ neighbours, step.regional = true)
    (by unfold Host.BelowLimit; decide +kernel) (by decide +kernel) (by decide : (0 : SlotId) ≠ 1)
    heldA heldB (.fill 9) .free false true
  rw [filled, freed] at results otherResults
  exact ⟨heldA, heldB, results, otherResults, slots, host⟩

end ExecMemory
