import ExecMemory.Proofs.PageFrames
import ExecMemory.Proofs.Programs

/-!
# Code that was written is code that runs

From the bytes of a program to the value of a call, through the memory of a region.

* `Executable` says that code can be fetched from memory as it is. A change of access that succeeds
  makes it so, if the bytes are there (`Executable.of_protect`).
* `Building` describes a region on the way to that point: its pages can be read and written, and no
  byte of them can be executed. A step on the region keeps it that way, or makes the region
  executable (`Machine.Builds.step`).
* `Chunk.cut` cuts code into consecutive chunks. Written in any order, they leave the code in the
  region (`Machine.Builds.writeAll`).

Nothing is assumed of the machine but that a script has led to it.
-/

namespace ExecMemory

/-! ## Fetching code -/

namespace Memory

variable {memory written : Memory} {address start length : Nat} {perms : Perms}
  {content : Nat → UInt8}

theorem fetch?_eq_byte? (mapped : memory.perms? (address / pageBytes) = some perms)
    (exec : perms.exec = true) : memory.fetch? address = memory.byte? address := by
  obtain ⟨page, found, rfl⟩ := Option.map_eq_some_iff.mp mapped
  simp [fetch?, byte?, found, exec]

theorem fetch?_eq_none (mapped : memory.perms? (address / pageBytes) = some perms)
    (exec : perms.exec = false) : memory.fetch? address = none := by
  obtain ⟨page, found, rfl⟩ := Option.map_eq_some_iff.mp mapped
  simp [fetch?, found, exec]

/-- The bytes of a range that was written are the new ones. -/
theorem byte?_of_write? (wrote : memory.write? start length content = some written)
    (low : start ≤ address) (high : address < start + length) :
    written.byte? address = some (content (address - start)) := by
  obtain ⟨permitted, _⟩ := write?_eq_some_iff.mp wrote
  obtain ⟨page, found, _⟩ :=
    (memory.permits_eq_true_iff _ start length).mp permitted address low high
  rw [byte?_write? wrote]
  simp [byte?, found, low, high]

end Memory

/-- A change of access that succeeds has changed all pages of a proper range. -/
theorem Host.call_protect_ok {host later : Host} {base length value : UInt64} {perms : Perms}
    (called : host.call (.protect base length perms) = (.ok value, later)) :
    PageRange base length ∧ base.toNat + (wholePages length).toNat < UInt64.size ∧
      (∀ n ∈ Span.ofRange base length, (host.memory.page? n).isSome) ∧
      later.memory = host.memory.protectPages (.ofRange base length) perms := by
  rcases taken : Plan.take (Request.protect base length perms).kind host.plans with ⟨fault, plans⟩
  have spoils := fun fault => @Plan.kind_of_take .protect host.plans fault
  unfold Host.call at called
  rw [taken] at called
  change ∀ fault, (Plan.take (Request.protect base length perms).kind host.plans).1 = _ →
      _ at spoils
  rw [taken] at spoils
  rcases fault with _ | (_ | resized | _)
  · change Host.protect _ base length perms = _ at called
    unfold Host.protect at called
    split at called
    · rename_i aligned
      split at called
      · rename_i forward
        obtain ⟨replied, rfl⟩ := Prod.mk.inj called
        dsimp only at replied
        split at replied
        · rename_i full
          rw [UInt64.lt_iff_toNat_lt, UInt64.toNat_add] at forward
          have low := base.toNat_lt
          have bound := (wholePages length).toNat_lt
          refine ⟨⟨beq_iff_eq.mp aligned, ?_⟩, ?_, ?_, ?_⟩
          · intro empty
            rw [empty] at forward
            have zero : (0 : UInt64).toNat = 0 := rfl
            omega
          · show _ < 2 ^ 64
            omega
          · intro n member
            refine @Memory.isSome_page?_of_lt_mappedCount _ _ (Span.ofRange base length).count _
              member.1 ?_
            rw [full]
            exact member.2
          · simp only [full]
        · cases replied
      · cases called
    · cases called
  · cases called
  · cases spoils _ rfl
  · cases spoils _ rfl

/-- From `base` on, memory has this code, all of it executable, and the code ends before the address
space does. -/
structure Executable (memory : Memory) (base : UInt64) (code : List UInt8) : Prop where
  reads : Reads memory.fetch? base.toNat code
  inside : base.toNat + code.length < UInt64.size

namespace Executable

variable {memory : Memory} {base : UInt64} {code : List UInt8}

/-- Code that is in memory becomes executable with the access to its pages. -/
theorem of_protect {host later : Host} {length value : UInt64}
    (called : host.call (.protect base length .readExec) = (.ok value, later))
    (covers : code.length ≤ length.toNat) (written : Reads host.memory.byte? base.toNat code) :
    Executable later.memory base code := by
  obtain ⟨range, forward, mapped, changed⟩ := Host.call_protect_ok called
  have whole := le_wholePages range.nonempty
  refine ⟨fun i byte found => ?_, by omega⟩
  have short := (List.getElem?_eq_some_iff.mp found).1
  have member := range.page_mem (Nat.le_add_right base.toNat i) (by omega)
  have perms : later.memory.perms? ((base.toNat + i) / pageBytes) = some .readExec := by
    obtain ⟨page, found⟩ := Option.isSome_iff_exists.mp (mapped _ member)
    rw [changed]
    simp [Memory.perms?, member, found]
  rw [Memory.fetch?_eq_byte? perms rfl, changed, Memory.byte?_protectPages]
  exact written i byte found

/-- Executable code runs from every boundary between its instructions on. -/
theorem runs {front back : List Instr} {x y value : Int32}
    (executable : Executable memory base (encodeAll (front ++ back ++ [.ret])))
    (straight : .ret ∉ back) (sets : lastSet? x y back = some value) :
    execute memory.fetch? x y (base + .ofInt (encodeAll front).length).toNat 0 = some value := by
  obtain ⟨reads, inside⟩ := executable
  rw [List.append_assoc, encodeAll_append] at reads inside
  rw [List.length_append] at inside
  have start : (base + .ofInt (encodeAll front).length).toNat =
      base.toNat + (encodeAll front).length := by
    unfold UInt64.ofInt UInt64.size at *
    rw [UInt64.toNat_add, UInt64.toNat_ofNat']
    omega
  rw [start, execute_encodeAll straight reads.right (by omega), sets]
  rfl

end Executable

/-! ## Calling code -/

theorem exec_callCode (address : UInt64) (x y : Int32) (logging : Logging) (context : Context) :
    (callCode address x y).exec logging context =
      match execute context.host.memory.fetch? x y address.toNat 0 with
      | some result => (.ok result, context)
      | none => (.error .fault, context) := by
  cases ran : execute context.host.memory.fetch? x y address.toNat 0 <;> simp [callCode, ran]

/-- Where nothing can be executed, a call faults. -/
theorem exec_callCode_missing (logging : Logging) {context : Context} {address : UInt64}
    (x y : Int32) (missing : context.host.memory.fetch? address.toNat = none) :
    (callCode address x y).exec logging context = (.error .fault, context) := by
  have decoded : decodeAt context.host.memory.fetch? address.toNat = none := by
    simp [decodeAt, missing]
  rw [exec_callCode, execute_none decoded]

namespace Machine

variable {machine : Machine} {id : SlotId} {region : Region} {arguments : List Int32} {offset : Int}
  {x y value : Int32}

/-- A call of an executable region runs the code behind its entry. -/
theorem step_call (logging : Logging) (inThread : Bool)
    (held : machine.slots.get? id = some (.region region)) (executable : region.state = .executable)
    (ran : execute machine.host.memory.fetch? x y (region.base + .ofInt offset).toNat 0 =
      some value) :
    (machine.step logging (.library (.region id (.call [x, y] offset)) inThread)).1.result =
      .ok (.number value) := by
  have entry : region.entry? = some region.base := by simp [Region.entry?, executable]
  have called : ∀ context : Context, context.host = machine.host →
      (RegionCall.run id (.call [x, y] offset)).exec logging (context, machine.slots) =
        (.ok (.number value), context, machine.slots) := by
    intro context same
    have answered : (callWith (region.base + .ofInt offset) [x, y]).exec logging context =
        (.ok value, context) := by
      show (callCode _ x y).exec logging context = _
      rw [exec_callCode, same, ran]
    simp [RegionCall.run, exec_region held, entry, StepM.op, exec_ofOp, answered]
  rw [step_of_exec (.library (.region id (.call [x, y] offset)) inThread) (called _ rfl) rfl]

/-- A writable region has no entry to call. -/
theorem step_call_writable (logging : Logging) (inThread : Bool)
    (held : machine.slots.get? id = some (.region region)) (writable : region.state = .writable) :
    (machine.step logging (.library (.region id (.call arguments offset)) inThread)).1.result =
      .error (.stop (.error .invalidState)) := by
  have entry : region.entry? = none := by simp [Region.entry?, writable]
  have called : ∀ context : Context,
      (RegionCall.run id (.call arguments offset)).exec logging (context, machine.slots) =
        (.error (.stop (.error .invalidState)), context, machine.slots) := by
    intro context
    simp [RegionCall.run, exec_region held, entry, StepM.op, exec_ofOp]
  rw [step_of_exec (.library (.region id (.call arguments offset)) inThread) (called _) rfl]

/-- A call of an address that cannot be executed faults. -/
theorem step_host_call_faults (logging : Logging) {place : Place} {address : UInt64}
    (found : place.address? machine.slots = some address)
    (missing : machine.host.memory.fetch? address.toNat = none) :
    (machine.step logging (.host (.call place arguments))).1.result = .error (.stop .fault) := by
  have called : ∀ context : Context, context.host = machine.host →
      (HostAction.call place arguments).run.exec logging (context, machine.slots) =
        (.error (.stop .fault), context, machine.slots) := by
    intro context same
    rw [← same] at missing
    simp [HostAction.run, exec_resolve found, StepM.op, exec_ofOp, callWith,
      exec_callCode_missing logging _ _ missing]
  obtain ⟨_, stepped⟩ := step_of_exec_undone (.host (.call place arguments)) (called _ rfl) rfl
  rw [stepped]

end Machine

/-! ## Building a region -/

/-- A region that answers was created in an empty slot. -/
theorem Machine.created_turn (logging : Logging) {machine : Machine} {id : SlotId}
    {call : RegionCall} {inThread : Bool} {size : UInt64} {value : Value}
    (power : machine.host.pageSize.toNat.isPowerOfTwo)
    (creates : call.newSize? = some size)
    (made : (machine.step logging (.library (.region id call) inThread)).1.result = .ok value) :
    ∃ calls host slots,
      machine.Steps logging (.library (.region id call) inThread) (.ok value) calls host slots ∧
      Turn machine.host machine.slots id call (.ok value) calls host slots := by
  cases found : machine.slots.get? id with
  | none =>
      obtain ⟨result, calls, host, slots, steps, turn⟩ :=
        regionStep_turn logging machine id call inThread power fun region held => by
        rw [found] at held; cases held
      obtain rfl := steps.result_eq.symm.trans made
      exact ⟨calls, host, slots, steps, turn⟩
  | some slot =>
      have occupied : ∀ context : Context, (call.run id).exec logging (context, machine.slots) =
          (.error .slotInUse, context, machine.slots) := by
        intro context
        cases call with
        | allocate size => simp [RegionCall.run, exec_requireEmpty_held found]
        | ofCode code => simp [RegionCall.run, exec_requireEmpty_held found]
        | _ => cases creates
      obtain ⟨_, stepped⟩ :=
        step_of_exec_undone (.library (.region id call) inThread) (occupied _) rfl
      rw [stepped] at made
      cases made

/-- The slot holds a writable region, and the `length` bytes from its base on can be read and
written. -/
structure Building (host : Host) (slots : Slots) (id : SlotId) (region : Region) (length : UInt64) :
    Prop where
  held : slots.get? id = some (.region region)
  writable : region.state = .writable
  power : host.pageSize.toNat.isPowerOfTwo
  plain : host.Plain
  rounds : mappingLength region.size host.pageSize = .ok (some length)
  range : PageRange region.base length
  mapped : ∀ n ∈ Span.ofRange region.base length, host.memory.perms? n = some .readWrite

/-- A step on the region of the slot that does not end it, a look at memory or a poke into it, or a
planned fault that leaves lengths alone. -/
def Step.builds (id : SlotId) : Step → Bool
  | .library (.region other call) _ => other == id && !call.ends
  | .library _ _ => false
  | .host (.plan plan) => plan.fault.keepsLength
  | .host (.setPageSize _) => false
  | .host (.peek ..) | .host (.poke ..) | .host (.call ..) => true

/-- The step asks to make the region of the slot executable. -/
def Step.makesExecutable (id : SlotId) : Step → Bool
  | .library (.region other .makeExecutable) _ => other == id
  | _ => false

namespace Building

variable {host later : Host} {slots slots' : Slots} {id : SlotId} {region : Region}
  {length : UInt64} {call : RegionCall} {result : Except Halt Value} {calls : List SysCall}

/-- A new region can be built on. -/
theorem of_allocated {size base : UInt64} (power : host.pageSize.toNat.isPowerOfTwo)
    (plain : host.Plain) (aligned : host.cursor % placement = 0)
    (turn : Turn host slots id (.allocate size) (.ok (.address base)) calls later slots') :
    ∃ length, Building later slots' id ⟨base, size, .writable⟩ length := by
  cases turn with
  | @allocated _ length _ _ empty rounds called notNull =>
      obtain ⟨rfl, fits, plans, taken, rfl⟩ := plain.call_map called notNull
      refine ⟨length, ?_, rfl, power, plain.take taken, rounds,
        Host.pageRange_of_cursor aligned fits, ?_⟩
      · rw [Slots.get?_insert, if_pos rfl]
      · intro n member
        exact congrArg (Option.map Page.perms) (if_pos member)

variable (building : Building host slots id region length)
include building

theorem withPlans {plans : List Plan} (plain : { host with plans }.Plain) :
    Building { host with plans } slots id region length :=
  ⟨building.held, building.writable, building.power, plain, building.rounds, building.range,
    building.mapped⟩

/-- Writing bytes, here or elsewhere, leaves the pages as they are. -/
theorem withBytes {start count : Nat} {content : Nat → UInt8} {memory : Memory}
    (written : host.memory.write? start count content = some memory) :
    Building { host with memory } slots id region length := by
  refine ⟨building.held, building.writable, building.power, building.plain, building.rounds,
    building.range, fun n member => ?_⟩
  rw [Memory.perms?_write? written]
  exact building.mapped n member

/-- All pages are mapped, so a change of access that fails has not begun. -/
theorem refused {errno : Errno}
    (called : host.call (.protect region.base length .readExec) = (.error errno, later)) :
    Building later slots id region length := by
  rcases building.plain.reaction called with ⟨taken, answer⟩ | taken | _
  · rename_i plans
    have full := @Memory.mappedCount_eq host.memory (Span.ofRange region.base length)
      fun n member => Memory.isSome_page?_of_perms? (building.mapped n member)
    change Host.protect _ region.base length .readExec = _ at answer
    unfold Host.protect at answer
    simp only [full, if_pos] at answer
    split at answer
    · split at answer
      · cases answer
      · cases answer
        exact building.withPlans (building.plain.take taken)
    · cases answer
      exact building.withPlans (building.plain.take taken)
  · exact building.withPlans (building.plain.take taken)

/-- What one call on the region can come to. -/
theorem turn (turn : Turn host slots id call result calls later slots')
    (stays : call.ends = false) :
    Building later slots' id region length ∨ call = .makeExecutable ∧ result = .ok .unit := by
  have occupied : slots.get? id ≠ none := by
    rw [building.held]
    exact nofun
  cases turn with
  | mapRefused creates empty rounds called => exact absurd empty occupied
  | mapNull creates empty rounds called => exact absurd empty occupied
  | allocated empty rounds called notNull => exact absurd empty occupied
  | compiled empty rounds called notNull fits written changed => exact absurd empty occupied
  | unprotected empty rounds called notNull fits written denied cleaned =>
      exact absurd empty occupied
  | overlong empty rounds called notNull tooLong cleaned => exact absurd empty occupied
  | written held writable inside written => exact .inl (building.withBytes written)
  | filled held writable written => exact .inl (building.withBytes written)
  | madeExecutable held writable rounds called => exact .inr ⟨rfl, rfl⟩
  | notMadeExecutable held writable rounds called =>
      cases building.held.symm.trans held
      cases building.rounds.symm.trans rounds
      exact .inl (building.refused called)
  | freed held rounds called => cases stays
  | freeRefused held rounds called => cases stays
  | discarded held rounds called => cases stays
  | _ => exact .inl building

end Building

namespace Machine

variable {machine : Machine} {id : SlotId} {region : Region} {length : UInt64}

/-- The machine is building the region of the slot. -/
abbrev Builds (machine : Machine) (id : SlotId) (region : Region) (length : UInt64) : Prop :=
  Building machine.host machine.slots id region length

/-- The turn that a call on the region takes. -/
theorem Builds.step_turn (building : machine.Builds id region length) (logging : Logging)
    (call : RegionCall) (inThread : Bool) :
    ∃ result calls host slots,
      machine.Steps logging (.library (.region id call) inThread) result calls host slots ∧
      Turn machine.host machine.slots id call result calls host slots := by
  refine regionStep_turn logging machine id call inThread building.power fun region held => ?_
  cases building.held.symm.trans held
  exact ⟨length, building.rounds⟩

/-- **One step**: the region is still being built, or it has just become executable. -/
theorem Builds.step (building : machine.Builds id region length) (logging : Logging) {step : Step}
    (builds : step.builds id = true) :
    (machine.step logging step).2.Builds id region length ∨
      step.makesExecutable id = true ∧ (machine.step logging step).1.result = .ok .unit := by
  cases step with
  | host action =>
      obtain ⟨result, host, steps, turn⟩ := hostStep_turn logging machine action
      left
      unfold Builds
      rw [steps.host_eq, steps.slots_eq]
      cases turn with
      | planned plan =>
          refine building.withPlans fun other member => ?_
          rcases List.mem_append.mp member with old | new
          · exact building.plain other old
          · cases List.mem_singleton.mp new
            exact builds
      | resized size => cases builds
      | poked written => exact building.withBytes written
      | peeked => exact building
      | called => exact building
      | notPoked => exact building
  | library call inThread =>
      cases call with
      | region other call =>
          obtain ⟨same, stays⟩ : other = id ∧ call.ends = false := by
            simpa [Step.builds] using builds
          subst same
          obtain ⟨result, calls, host, slots, steps, turn⟩ :=
            building.step_turn logging call inThread
          unfold Builds
          rw [steps.host_eq, steps.slots_eq, steps.result_eq]
          rcases building.turn turn stays with still | ⟨rfl, granted⟩
          · exact .inl still
          · exact .inr ⟨beq_self_eq_true other, granted⟩
      | _ => cases builds

/-- **Every script** in which no attempt to make the region executable succeeds. -/
theorem Builds.run (building : machine.Builds id region length) (logging : Logging)
    {steps : List Step} (builds : ∀ step ∈ steps, step.builds id = true)
    (unfinished : List.Forall₂ (fun step answer => step.makesExecutable id = true →
      answer.result ≠ .ok .unit) steps (machine.run logging steps).1) :
    (machine.run logging steps).2.Builds id region length := by
  induction steps generalizing machine with
  | nil => exact building
  | cons step later ih =>
      obtain ⟨now, rest⟩ := List.forall₂_cons.mp unfinished
      rcases building.step logging (builds step List.mem_cons_self) with still | ⟨attempt, granted⟩
      · exact ih still (fun other member => builds other (List.mem_cons_of_mem _ member)) rest
      · exact absurd granted (now attempt)

/-- A region that is being built cannot be called, neither through its entry nor at its base. -/
theorem Builds.not_callable (building : machine.Builds id region length) (logging : Logging)
    (arguments : List Int32) (offset : Int) (inThread : Bool) :
    region.entry? = none ∧
      (machine.step logging (.library (.region id (.call arguments offset)) inThread)).1.result =
        .error (.stop (.error .invalidState)) ∧
      (machine.step logging (.host (.call (.slot id 0) arguments))).1.result =
        .error (.stop .fault) := by
  refine ⟨?_, step_call_writable logging inThread building.held building.writable, ?_⟩
  · simp [Region.entry?, building.writable]
  · have found : (Place.slot id 0).address? machine.slots = some region.base := by
      have zero : UInt64.ofInt 0 = 0 := rfl
      simp [Place.address?, building.held, Slot.base, zero]
    have first : region.base.toNat / pageBytes ∈ Span.ofRange region.base length := by
      have positive := building.range.wholePages_pos
      have whole := wholePages_mod building.range.nonempty
      rw [Span.mem_iff]
      unfold Span.ofRange pageBytes at *
      dsimp only
      omega
    exact step_host_call_faults logging found
      (Memory.fetch?_eq_none (building.mapped _ first) rfl)

end Machine

/-! ## Writing code in chunks -/

/-- Bytes for an offset. -/
structure Chunk where
  offset : Nat
  bytes : List UInt8

namespace Chunk

/-- Consecutive chunks from an offset on. -/
def cut (offset : Nat) : List (List UInt8) → List Chunk
  | [] => []
  | piece :: later => ⟨offset, piece⟩ :: cut (offset + piece.length) later

/-- The step that writes the chunk into the region of a slot. -/
def write (id : SlotId) (inThread : Chunk → Bool) (chunk : Chunk) : Step :=
  .library (.region id (.write (.ofNat chunk.offset) chunk.bytes)) (inThread chunk)

/-- The chunk has a byte for offset `i`. -/
def Covers (chunk : Chunk) (i : Nat) : Prop :=
  chunk.offset ≤ i ∧ i < chunk.offset + chunk.bytes.length

/-- The chunk is a part of the code. -/
def PartOf (code : List UInt8) (chunk : Chunk) : Prop :=
  ∃ front back, code = front ++ chunk.bytes ++ back ∧ front.length = chunk.offset

variable {chunk : Chunk} {pieces : List (List UInt8)} {code : List UInt8} {offset i : Nat}

/-- Every chunk of a cut is a part of the whole. -/
theorem partOf_of_mem_cut (front : List UInt8) (member : chunk ∈ cut front.length pieces) :
    chunk.PartOf (front ++ pieces.flatten) := by
  induction pieces generalizing front with
  | nil => cases member
  | cons piece later ih =>
      rcases List.mem_cons.mp member with rfl | member
      · exact ⟨front, later.flatten, by simp, rfl⟩
      · rw [← List.length_append] at member
        have part := ih (front ++ piece) member
        rw [List.append_assoc] at part
        exact part

/-- Every byte of the whole is in a chunk of the cut. -/
theorem covered_by_cut (inside : i < pieces.flatten.length) :
    ∃ chunk ∈ cut offset pieces, chunk.Covers (offset + i) := by
  induction pieces generalizing offset i with
  | nil => cases inside
  | cons piece later ih =>
      rw [List.flatten_cons, List.length_append] at inside
      by_cases here : i < piece.length
      · refine ⟨⟨offset, piece⟩, List.mem_cons_self, ?_⟩
        unfold Covers
        dsimp only
        omega
      · obtain ⟨chunk, member, covers⟩ :=
          @ih (offset + piece.length) (i - piece.length) (by omega)
        refine ⟨chunk, List.mem_cons_of_mem _ member, ?_⟩
        rw [(by omega : offset + i = offset + piece.length + (i - piece.length))]
        exact covers

/-- A chunk has the bytes that the code has in its place. -/
theorem PartOf.getElem? (part : chunk.PartOf code) (covers : chunk.Covers i) :
    code[i]? = some (byteAt chunk.bytes (i - chunk.offset)) := by
  obtain ⟨front, back, rfl, start⟩ := part
  obtain ⟨low, high⟩ := covers
  rw [List.append_assoc, List.getElem?_append_right (by omega), start,
    List.getElem?_append_left (by omega)]
  simp [byteAt, (by omega : i - chunk.offset < chunk.bytes.length)]

theorem PartOf.length_le (part : chunk.PartOf code) :
    chunk.offset + chunk.bytes.length ≤ code.length := by
  obtain ⟨front, back, rfl, start⟩ := part
  rw [List.length_append, List.length_append]
  omega

/-- Writing a part of the code makes its bytes right, and leaves right those that were. -/
theorem PartOf.written (part : chunk.PartOf code) {memory later : Memory} {start : Nat}
    (wrote : memory.write? (start + chunk.offset) chunk.bytes.length (byteAt chunk.bytes) =
      some later)
    (right : chunk.Covers i ∨ memory.byte? (start + i) = code[i]?) :
    later.byte? (start + i) = code[i]? := by
  by_cases covers : chunk.Covers i
  · have ⟨low, high⟩ := covers
    rw [part.getElem? covers, Memory.byte?_of_write? wrote (by omega) (by omega),
      Nat.add_sub_add_left]
  · have outside : ¬ (start + chunk.offset ≤ start + i ∧
        start + i < start + chunk.offset + chunk.bytes.length) := by
      unfold Covers at covers
      omega
    rw [Memory.byte?_write? wrote]
    simp only [if_neg outside, Option.map_id']
    exact right.resolve_left covers

end Chunk

namespace Machine

variable {machine : Machine} {id : SlotId} {region : Region} {length : UInt64} {code : List UInt8}

/-- A chunk that fits is written. -/
theorem Builds.write (building : machine.Builds id region length) (logging : Logging)
    {chunk : Chunk} (inThread : Chunk → Bool)
    (fits : chunk.offset + chunk.bytes.length ≤ region.size.toNat) :
    ∃ memory, machine.host.memory.write? (region.base.toNat + chunk.offset) chunk.bytes.length
        (byteAt chunk.bytes) = some memory ∧
      machine.Steps logging (chunk.write id inThread) (.ok .unit) [] { machine.host with memory }
        machine.slots := by
  have covers := (mappingLength_eq_some building.power building.rounds).2
  have bound := region.size.toNat_lt
  have offset : (UInt64.ofNat chunk.offset).toNat = chunk.offset :=
    UInt64.toNat_ofNat_of_lt' (by show _ < 2 ^ 64; omega)
  have permitted : machine.host.memory.permits Perms.write (region.base.toNat + chunk.offset)
      chunk.bytes.length = true := by
    rw [Memory.permits_eq_true_iff]
    intro address low high
    have member := building.range.page_mem (by omega : region.base.toNat ≤ address) (by omega)
    obtain ⟨page, found, perms⟩ := Option.map_eq_some_iff.mp (building.mapped _ member)
    exact ⟨page, found, by rw [perms]; rfl⟩
  obtain ⟨memory, written⟩ : ∃ memory, machine.host.memory.write? (region.base.toNat + chunk.offset)
      chunk.bytes.length (byteAt chunk.bytes) = some memory :=
    ⟨_, Memory.write?_eq_some_iff.mpr ⟨permitted, rfl⟩⟩
  refine ⟨memory, written, ?_⟩
  rw [← offset] at fits written
  obtain ⟨lastError, records, ran⟩ :=
    @ends_use Unit logging (.start machine.host _) _ machine.slots id region []
    (fun region => region.write (.ofNat chunk.offset) chunk.bytes) (fun _ _ => .unit) (.ok ())
    building.held (Region.ends_write rfl building.writable fits written)
  exact steps_of_exec (chunk.write id inThread) ran rfl

/-- **Chunks of the code, written in any order**, leave their bytes in the region. `known` are the
offsets where the code is already there. -/
theorem Builds.writeAll (building : machine.Builds id region length) (logging : Logging)
    (inThread : Chunk → Bool) {order : List Chunk} (parts : ∀ chunk ∈ order, chunk.PartOf code)
    (fits : code.length ≤ region.size.toNat) {known : Nat → Prop}
    (right : ∀ i, known i → machine.host.memory.byte? (region.base.toNat + i) = code[i]?) :
    let written := machine.run logging (order.map (Chunk.write id inThread))
    written.2.Builds id region length ∧ (∀ answer ∈ written.1, answer.result = .ok .unit) ∧
      ∀ i, (known i ∨ ∃ chunk ∈ order, chunk.Covers i) →
        written.2.host.memory.byte? (region.base.toNat + i) = code[i]? := by
  induction order generalizing machine known with
  | nil =>
      refine ⟨building, nofun, fun i covered => ?_⟩
      rcases covered with there | ⟨_, member, _⟩
      · exact right i there
      · cases member
  | cons chunk later ih =>
      have part := parts chunk List.mem_cons_self
      obtain ⟨memory, wrote, steps⟩ :=
        building.write logging inThread (Nat.le_trans part.length_le fits)
      have still : (machine.step logging (chunk.write id inThread)).2.Builds id region length := by
        unfold Builds
        rw [steps.host_eq, steps.slots_eq]
        exact building.withBytes wrote
      have rightNext : ∀ i, (known i ∨ chunk.Covers i) →
          (machine.step logging (chunk.write id inThread)).2.host.memory.byte?
            (region.base.toNat + i) = code[i]? := by
        intro i covered
        rw [steps.host_eq]
        exact part.written wrote (covered.symm.imp_right (right i))
      obtain ⟨built, answers, rest⟩ :=
        ih still (fun other member => parts other (List.mem_cons_of_mem _ member)) rightNext
      refine ⟨built, ?_, fun i covered => rest i ?_⟩
      · intro answer member
        rcases List.mem_cons.mp member with rfl | member
        · exact steps.result_eq
        · exact answers answer member
      · rcases covered with there | ⟨other, member, covers⟩
        · exact .inl (.inl there)
        · rcases List.mem_cons.mp member with rfl | member
          · exact .inl (.inr covers)
          · exact .inr ⟨other, member, covers⟩

/-- When the region becomes executable, so does the code that is in it. -/
theorem Builds.finish (building : machine.Builds id region length) (logging : Logging)
    (inThread : Bool) (fits : code.length ≤ region.size.toNat)
    (written : Reads machine.host.memory.byte? region.base.toNat code)
    (granted : (machine.step logging (.library (.region id .makeExecutable) inThread)).1.result =
      .ok .unit) :
    let finished := (machine.step logging (.library (.region id .makeExecutable) inThread)).2
    finished.slots.get? id = some (.region { region with state := .executable }) ∧
      Executable finished.host.memory region.base code := by
  intro finished
  obtain ⟨result, calls, host, slots, steps, turn⟩ :=
    building.step_turn logging .makeExecutable inThread
  rw [steps.host_eq, steps.slots_eq]
  rw [steps.result_eq] at granted
  subst granted
  cases turn with
  | madeExecutable held writable rounds called =>
      cases building.held.symm.trans held
      have covers := (mappingLength_eq_some building.power rounds).2
      refine ⟨?_, .of_protect called (by omega) written⟩
      rw [Slots.get?_insert, if_pos rfl]

/-- A region made from code has the code, executable. -/
theorem executable_of_ofCode (logging : Logging) {inThread : Bool} {base : UInt64}
    (power : machine.host.pageSize.toNat.isPowerOfTwo)
    (made : (machine.step logging (.library (.region id (.ofCode code)) inThread)).1.result =
      .ok (.address base)) :
    let built := (machine.step logging (.library (.region id (.ofCode code)) inThread)).2
    built.slots.get? id = some (.region ⟨base, .ofNat code.length, .executable⟩) ∧
      Executable built.host.memory base code := by
  intro built
  obtain ⟨calls, host, slots, steps, turn⟩ := created_turn logging power rfl made
  rw [steps.host_eq, steps.slots_eq]
  cases turn with
  | compiled empty rounds called notNull fits written changed =>
      have covers := (mappingLength_eq_some power rounds).2
      rw [UInt64.toNat_ofNat_of_lt' fits] at covers
      refine ⟨?_, .of_protect changed covers fun i byte found => ?_⟩
      · rw [Slots.get?_insert, if_pos rfl]
      · have short := (List.getElem?_eq_some_iff.mp found).1
        rw [Memory.byte?_of_write? written (Nat.le_add_right _ _) (by omega),
          Nat.add_sub_cancel_left]
        simp [byteAt, found]

/-- The machine that a script leaves. -/
def after (logging : Logging) (steps : List Step) : Machine := (initial.run logging steps).2

/-- Whatever a script did, the next mapping begins a page. -/
theorem cursor_after (logging : Logging) (steps : List Step) :
    (after logging steps).host.cursor % placement = 0 := by
  have invariant : HostInvariant (fun _ => True) (fun host => host.cursor % placement = 0) :=
    { call := fun host request _ aligned => (Host.call_extends rfl).cursor_mod.trans aligned
      write := fun _ _ _ _ _ _ aligned => aligned
      plan := fun _ _ aligned => aligned
      pageSize := fun _ _ aligned => aligned }
  refine invariant.run trivial logging (fun step _ => ?_) rfl
  unfold Step.Within
  split <;> trivial

end Machine

/-- **Programs run end to end.** Take any program without a return in it, cut in two at any boundary
between instructions, with an instruction behind the cut that sets the result. Encode it, with a
return at the end. After any script, on a host that reports a power of two as its page size and
plans no fault that changes a length:

* if a region can be made from the code, a call of it from the cut on answers with the value of the
  last instruction that sets the result;
* if a region that is large enough can be allocated, the code can be written into it in consecutive
  chunks, in any order, and once the region has been made executable the call answers in the same
  way;
* until that has succeeded, whatever is done to the region short of ending it, it has no entry, and
  a call of its base faults. -/
theorem encoded_programs_run (logging : Logging) {before : List Step} {front back : List Instr}
    {x y value : Int32} (straight : .ret ∉ front ++ back) (sets : lastSet? x y back = some value)
    (power : (Machine.after logging before).host.pageSize.toNat.isPowerOfTwo)
    (plain : (Machine.after logging before).host.Plain) (id : SlotId) (inThread : Bool) :
    let machine := Machine.after logging before
    let code := encodeAll (front ++ back ++ [.ret])
    let call : Step := .library (.region id (.call [x, y] (encodeAll front).length)) inThread
    (∀ base,
      let built := machine.step logging (.library (.region id (.ofCode code)) inThread)
      built.1.result = .ok (.address base) →
      (∃ region, built.2.slots.get? id = some (.region region) ∧ region.entry? = some base) ∧
      (built.2.step logging call).1.result = .ok (.number value)) ∧
    ∀ base size,
      let allocated := machine.step logging (.library (.region id (.allocate size)) inThread)
      allocated.1.result = .ok (.address base) →
      (∀ (pieces : List (List UInt8)) (order : List Chunk) (threads : Chunk → Bool),
        code.length ≤ size.toNat → pieces.flatten = code → order.Perm (Chunk.cut 0 pieces) →
        let written := allocated.2.run logging (order.map (Chunk.write id threads))
        let finished := written.2.step logging (.library (.region id .makeExecutable) inThread)
        (∀ answer ∈ written.1, answer.result = .ok .unit) ∧
        (finished.1.result = .ok .unit →
          (∃ region, finished.2.slots.get? id = some (.region region) ∧ region.entry? = some base) ∧
          (finished.2.step logging call).1.result = .ok (.number value))) ∧
      ∀ steps, (∀ step ∈ steps, step.builds id = true) →
        let building := allocated.2.run logging steps
        List.Forall₂ (fun step answer => step.makesExecutable id = true →
          answer.result ≠ .ok .unit) steps building.1 →
        (∃ region, building.2.slots.get? id = some (.region region) ∧ region.base = base ∧
          region.entry? = none) ∧
        ∀ arguments offset,
          (building.2.step logging
            (.library (.region id (.call arguments offset)) inThread)).1.result =
            .error (.stop (.error .invalidState)) ∧
          (building.2.step logging (.host (.call (.slot id 0) arguments))).1.result =
            .error (.stop .fault) := by
  intro machine code call
  have straightBack : .ret ∉ back := fun member => straight (List.mem_append_right _ member)
  constructor
  · intro base built made
    obtain ⟨held, executable⟩ := Machine.executable_of_ofCode logging power made
    exact ⟨⟨_, held, rfl⟩,
      Machine.step_call logging inThread held rfl (executable.runs straightBack sets)⟩
  · intro base size allocated made
    obtain ⟨calls, host, slots, steps, turn⟩ := Machine.created_turn logging power rfl made
    obtain ⟨length, building⟩ :=
      Building.of_allocated power plain (Machine.cursor_after logging before) turn
    rw [← steps.host_eq, ← steps.slots_eq] at building
    constructor
    · intro pieces order threads fits whole permuted written finished
      have parts : ∀ chunk ∈ order, chunk.PartOf code := by
        intro chunk member
        rw [← whole]
        exact Chunk.partOf_of_mem_cut [] (permuted.mem_iff.mp member)
      obtain ⟨built, answers, right⟩ := Machine.Builds.writeAll building logging threads parts fits
        (fun i (impossible : False) => impossible.elim)
      refine ⟨answers, fun granted => ?_⟩
      have there : Reads written.2.host.memory.byte? base.toNat code := by
        intro i byte found
        have inside := (List.getElem?_eq_some_iff.mp found).1
        rw [← whole] at inside
        obtain ⟨chunk, member, covers⟩ := @Chunk.covered_by_cut _ 0 i inside
        rw [Nat.zero_add] at covers
        rw [← found]
        exact right i (.inr ⟨chunk, permuted.mem_iff.mpr member, covers⟩)
      obtain ⟨held, executable⟩ := built.finish logging inThread fits there granted
      exact ⟨⟨_, held, rfl⟩,
        Machine.step_call logging inThread held rfl (executable.runs straightBack sets)⟩
    · intro steps builds during unfinished
      have still := Machine.Builds.run building logging builds unfinished
      refine ⟨⟨_, still.held, rfl, (still.not_callable logging [] 0 inThread).1⟩, ?_⟩
      intro arguments offset
      exact (still.not_callable logging arguments offset inThread).2

/-- A program with bytes of other instructions in its first immediate, cut behind its first
instruction. -/
def sumProgram : List Instr × List Instr := ([.load 0x00c3b88d], [.nop, .load (-2), .add])

/-- Its bytes, in pieces that cut instructions apart. -/
def sumPieces : List (List UInt8) :=
  [[0xb8, 0x8d, 0xb8], [0xc3, 0x00, 0x90, 0xb8, 0xfe, 0xff], [0xff, 0xff, 0x8d, 0x04], [0x37, 0xc3]]

theorem encoded_programs_run_sum :
    let machine := Machine.after .silent []
    let call : Step := .library (.region 0 (.call [40, 2] 5)) false
    let built := machine.step .silent (.library (.region 0 (.ofCode sumPieces.flatten)) false)
    let allocated := machine.step .silent (.library (.region 0 (.allocate 15)) false)
    let written := allocated.2.run .silent
      ((Chunk.cut 0 sumPieces).reverse.map (Chunk.write 0 fun _ => false))
    let finished := written.2.step .silent (.library (.region 0 .makeExecutable) false)
    let refused := allocated.2.run .silent [.host (.plan ⟨0, .refuse .protect .accessDenied⟩),
      .library (.region 0 .makeExecutable) false]
    built.1.result = .ok (.address 0x10000000000) ∧
    (built.2.step .silent call).1.result = .ok (.number 42) ∧
    allocated.1.result = .ok (.address 0x10000000000) ∧ finished.1.result = .ok .unit ∧
    (finished.2.step .silent call).1.result = .ok (.number 42) ∧
    (refused.2.step .silent (.host (.call (.slot 0 0) []))).1.result = .error (.stop .fault) := by
  obtain ⟨atOnce, inChunks⟩ := @encoded_programs_run .silent [] sumProgram.1 sumProgram.2 40 2 42
    (by decide) (by decide) (by decide) (by unfold Host.Plain; decide) 0 false
  have made : ((Machine.after .silent []).step .silent
      (.library (.region 0 (.ofCode sumPieces.flatten)) false)).1.result =
        .ok (.address 0x10000000000) := by decide +kernel
  have mapped : ((Machine.after .silent []).step .silent
      (.library (.region 0 (.allocate 15)) false)).1.result = .ok (.address 0x10000000000) := by
    decide +kernel
  obtain ⟨chunks, unfinished⟩ := inChunks 0x10000000000 15 mapped
  obtain ⟨_, ran⟩ := chunks sumPieces (Chunk.cut 0 sumPieces).reverse (fun _ => false) (by decide)
    (by decide) (List.reverse_perm _)
  have granted : ((((Machine.after .silent []).step .silent
      (.library (.region 0 (.allocate 15)) false)).2.run .silent
        ((Chunk.cut 0 sumPieces).reverse.map (Chunk.write 0 fun _ => false))).2.step .silent
          (.library (.region 0 .makeExecutable) false)).1.result = .ok .unit := by decide +kernel
  obtain ⟨_, faults⟩ := unfinished [.host (.plan ⟨0, .refuse .protect .accessDenied⟩),
    .library (.region 0 .makeExecutable) false] (by decide)
    (.cons nofun (.cons (fun _ => by decide +kernel) .nil))
  exact ⟨made, (atOnce 0x10000000000 made).2, mapped, granted, (ran granted).2, (faults [] 0).2⟩

end ExecMemory
