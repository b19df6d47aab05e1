import ExecMemory.Proofs.Contents
import Mathlib.Data.List.Forall2

/-!
# Regions refine the region store

Run side by side on the same script, regions over paged memory and the store of `RegionStore` give
the same outcomes, and in the end every region reads back as its block. In particular no operation
of a region ever faults.

The two are related by `Represents`: the same plans, and in every slot a region whose bytes in
memory are those of the block.

* The lemmas of `Represents` follow the blocks through host calls and writes.
* `Turn.refines` compares one call, `Machine.run_refines` whole scripts.
-/

namespace ExecMemory

/-! ## Outcomes -/

/-- The result of a step shows an outcome of the store. No outcome shows as a fault. -/
inductive Outcome.Shows : Outcome → Except Halt Value → Prop
  | created (address : UInt64) : Shows .created (.ok (.address address))
  | done : Shows .done (.ok .unit)
  | filled (size : UInt64) : Shows (.filled size.toNat) (.ok (.size size))
  | bytes (bytes : List UInt8) : Shows (.bytes bytes) (.ok (.bytes bytes))
  | info (region : Region) (length : UInt64) :
      Shows (.info region.size.toNat region.state) (.ok (.info region length))
  | failed (error : Error) : Shows (.failed error) (.error (.stop (.error error)))
  | nullMapping (errno : Errno) :
      Shows .nullMapping (.error (.stop (.error (.outOfMemory errno))))
  | panicked (panic : Panic) : Shows .panicked (.error (.stop (.panic panic)))
  | noSuchSlot : Shows .noSuchSlot (.error .noSuchSlot)
  | slotInUse : Shows .slotInUse (.error .slotInUse)

/-- Reading a region shows what reading its block gives. -/
theorem Holds.read_shows {page : UInt64} {host : Host} {region : Region} {block : Block}
    (holds : Holds host.memory region block) (owned : region.Owned page host)
    (power : page.toNat.isPowerOfTwo) (start stop : UInt64) :
    (block.read start.toNat stop.toNat).Shows (region.readAnswer host.memory start stop) := by
  have inRange : start ≤ stop ∧ stop ≤ region.size ↔
      start.toNat ≤ stop.toNat ∧ stop.toNat ≤ block.bytes.length := by
    rw [UInt64.le_iff_toNat_le, UInt64.le_iff_toNat_le, holds.size]
  unfold Block.read Region.readAnswer
  by_cases ordered : start.toNat ≤ stop.toNat ∧ stop.toNat ≤ block.bytes.length
  · have size := holds.size
    have permitted := owned.permits power region.state.readable_perms
      (by omega : start.toNat + (stop.toNat - start.toNat) ≤ region.size.toNat)
    rw [if_pos ordered, Region.checkRange_eq_ok_iff.mpr (inRange.mpr ordered)]
    dsimp only
    rw [Memory.read?, if_pos permitted, holds.load_eq (by omega)]
    exact .bytes _
  · rw [if_neg ordered]
    cases range : Region.checkRange start stop region.size with
    | error panic => exact .panicked panic
    | ok value => exact absurd (inRange.mp (Region.checkRange_eq_ok_iff.mp range)) ordered

/-! ## Asking the host -/

/-- Why the store takes a call of a kind to have failed, from the host's reply. -/
def refusal (kind : CallKind) : Reply → Option Outcome
  | .ok _ => none
  | .error errno => some (.failed (Mapping.classify kind errno))

section Asking

variable {page : UInt64} {host later : Host} {store : Store} {kind : CallKind} {granted : Memory}
  {reply : Reply} {size base : UInt64} {errno : Errno}

/-- Host and store have the same plans, so they refuse the same calls. -/
theorem Granted.ask (answer : Granted host kind granted reply later)
    (plans : host.plans = store.plans) :
    store.ask kind = (refusal kind reply, { store with plans := later.plans }) := by
  unfold Store.ask
  rw [← plans]
  cases answer with
  | granted taken =>
      rw [taken]
      rfl
  | refused taken =>
      rw [taken]
      rfl

variable (power : page.toNat.isPowerOfTwo) (ready : host.Ready) (plans : host.plans = store.plans)
include power plans

omit power plans in
theorem leastMultiple_lt (power : page.toNat.isPowerOfTwo) {length : UInt64}
    (rounds : mappingLength size page = .ok (some length)) :
    leastMultiple size.toNat page.toNat < UInt64.size := by
  rw [mappingLength_eq size power] at rounds
  by_cases fits : leastMultiple size.toNat page.toNat < UInt64.size
  · exact fits
  · rw [if_neg fits] at rounds
    cases rounds

omit plans in
theorem askMemory_tooLarge (overflows : mappingLength size page = .ok none) :
    store.askMemory page size = (some (.failed .tooLarge), store) := by
  rw [mappingLength_eq size power] at overflows
  unfold Store.askMemory
  by_cases fits : leastMultiple size.toNat page.toNat < UInt64.size
  · rw [if_pos fits] at overflows
    cases overflows
  · rw [if_neg fits]

include ready

theorem askMemory_granted (rounds : mappingLength size page = .ok (some (mappedBytes size page)))
    (called : host.call (.map (mappedBytes size page) .readWrite) = (.ok base, later))
    (notNull : base ≠ 0) :
    store.askMemory page size = (none, { store with plans := later.plans }) := by
  obtain ⟨_, fits, plans', taken, rfl⟩ := ready.call_map called notNull
  unfold Store.askMemory Store.ask
  rw [if_pos (leastMultiple_lt power rounds), ← plans, taken]
  dsimp only
  rw [if_pos fits]
  rfl

theorem askMemory_refused (rounds : mappingLength size page = .ok (some (mappedBytes size page)))
    (called : host.call (.map (mappedBytes size page) .readWrite) = (.error errno, later)) :
    store.askMemory page size =
      (some (.failed (.outOfMemory errno)), { store with plans := later.plans }) := by
  obtain ⟨fault, plans', taken, rfl, why⟩ := ready.call_map_error called
  unfold Store.askMemory Store.ask
  rw [if_pos (leastMultiple_lt power rounds), ← plans, taken]
  rcases why with ⟨kind, rfl⟩ | ⟨rfl, large, rfl⟩
  · rfl
  · dsimp only
    rw [if_neg large]

theorem askMemory_null (rounds : mappingLength size page = .ok (some (mappedBytes size page)))
    (called : host.call (.map (mappedBytes size page) .readWrite) = (.ok 0, later)) :
    store.askMemory page size = (some .nullMapping, { store with plans := later.plans }) := by
  obtain ⟨plans', taken, rfl⟩ := ready.call_map_null called
  unfold Store.askMemory Store.ask
  rw [if_pos (leastMultiple_lt power rounds), ← plans, taken]

end Asking

/-! ## How the store runs -/

section Store

variable {page : UInt64} {store later : Store} {id : SlotId} {block : Block}

theorem vacant_eq (empty : store.block? id = none) (next : Outcome × Store) :
    store.vacant id next = next := by
  unfold Store.vacant
  rw [empty]

theorem onGrant_none (next : Store → Outcome × Store) :
    Store.onGrant (none, later) next = next later := rfl

theorem holding_eq (found : store.block? id = some block) (next : Block → Outcome × Store) :
    store.holding id next = next block := by
  unfold Store.holding
  rw [found]

theorem writing_eq (found : store.block? id = some block) (writable : block.state = .writable)
    (next : Block → Outcome × Store) : store.writing id next = next block := by
  unfold Store.writing
  rw [holding_eq found, writable]

theorem writing_locked (found : store.block? id = some block)
    (executable : block.state = .executable) (next : Block → Outcome × Store) :
    store.writing id next = (.failed .invalidState, store) := by
  unfold Store.writing
  rw [holding_eq found, executable]

/-- An operation that cannot get its memory stops there. -/
theorem call_of_failure {call : RegionCall} {size : UInt64} {failure : Outcome}
    (creates : call.newSize? = some size) (empty : store.block? id = none)
    (asked : store.askMemory page size = (some failure, later)) :
    store.call page id call = (failure, later) := by
  cases call with
  | allocate size =>
      cases creates
      rw [Store.call, vacant_eq empty, asked]
      rfl
  | ofCode code =>
      cases creates
      rw [Store.call, vacant_eq empty, asked]
      rfl
  | _ => cases creates

theorem splice_zeros {code : List UInt8} (fits : code.length < UInt64.size) :
    Block.splice ⟨.replicate (UInt64.ofNat code.length).toNat 0, .writable⟩ 0 code =
      ⟨code, .writable⟩ := by
  have length : (UInt64.ofNat code.length).toNat = code.length := UInt64.toNat_ofNat_of_lt' fits
  unfold Block.splice
  rw [length]
  simp

theorem set_set (store : Store) (id : SlotId) (first second : Option Block) (plans : List Plan) :
    ({ store.set id first with plans }).set id second = { store with plans }.set id second := by
  unfold Store.set
  rw [Function.update_idem]

theorem set_none (empty : store.block? id = none) : store.set id none = store := by
  unfold Store.set
  rw [← empty, Function.update_eq_self]

end Store

/-! ## The simulation -/

/-- The store has the host's plans and, slot by slot, the contents of the regions. -/
structure Represents (host : Host) (live : SlotId → Option Region) (store : Store) : Prop where
  plans : host.plans = store.plans
  contents : Contents host.memory live store.block?

namespace Represents

variable {page : UInt64} {host later : Host} {live : SlotId → Option Region} {store : Store}
  {abandoned : List Region} {id : SlotId} {region : Region} {block : Block}
  {size length base value : UInt64} {errno : Errno} {reply : Reply}
  (represents : Represents host live store) (sound : Sound page host live abandoned)
include represents sound

theorem call_map (id : SlotId) (rounds : mappingLength size page = .ok (some length))
    (called : host.call (.map length .readWrite) = (.ok base, later)) (notNull : base ≠ 0) :
    Represents later (Function.update live id (some ⟨base, size, .writable⟩))
      ({ store with plans := later.plans }.set id (some ⟨.replicate size.toNat 0, .writable⟩)) := by
  cases sound.length_eq rounds
  obtain ⟨rfl, fits, plans, taken, rfl⟩ := sound.ready.call_map called notNull
  exact ⟨rfl, represents.contents.map (sound.taken taken) rounds fits⟩

theorem call_map_failed (called : host.call (.map length .readWrite) = (reply, later))
    (failed : reply = .ok 0 ∨ ∃ errno, reply = .error errno) :
    Represents later live { store with plans := later.plans } := by
  rcases failed with rfl | ⟨errno, rfl⟩
  · obtain ⟨plans, _, rfl⟩ := sound.ready.call_map_null called
    exact ⟨rfl, represents.contents⟩
  · obtain ⟨fault, plans, _, rfl, _⟩ := sound.ready.call_map_error called
    exact ⟨rfl, represents.contents⟩

variable (held : live id = some region)
include held

theorem call_protect (holds : Holds host.memory region block)
    (rounds : mappingLength region.size page = .ok (some length))
    (called : host.call (.protect region.base length .readExec) = (.ok value, later)) :
    Represents later (Function.update live id (some { region with state := .executable }))
      ({ store with plans := later.plans }.set id (some { block with state := .executable })) := by
  cases sound.answers_protect held rounds called with
  | granted taken => exact ⟨rfl, represents.contents.reprotect holds .executable⟩

theorem call_protect_error (rounds : mappingLength region.size page = .ok (some length))
    (called : host.call (.protect region.base length .readExec) = (.error errno, later)) :
    Represents later live { store with plans := later.plans } := by
  cases sound.answers_protect held rounds called with
  | refused taken => exact ⟨rfl, represents.contents⟩

theorem call_unmap (rounds : mappingLength region.size page = .ok (some length))
    (called : host.call (.unmap region.base length) = (reply, later)) :
    Represents later (Function.update live id none)
      ({ store with plans := later.plans }.set id none) := by
  cases sound.answers_unmap held rounds called with
  | granted taken => exact ⟨rfl, represents.contents.unmap sound held⟩
  | refused taken => exact ⟨rfl, represents.contents.erase⟩

theorem write {start length : Nat} {content : Nat → UInt8} {memory : Memory}
    (wrote : host.memory.write? (region.base.toNat + start) length content = some memory)
    (inside : start + length ≤ region.size.toNat) (holds : Holds memory region block) :
    Represents { host with memory } live (store.set id (some block)) :=
  ⟨represents.plans, represents.contents.write sound held wrote inside holds⟩

omit held in
/-- The first half of `ofCode`: fresh memory, and the code in it. -/
theorem call_map_write {code : List UInt8} {memory : Memory} (empty : live id = none)
    (rounds : mappingLength (.ofNat code.length) page = .ok (some length))
    (called : host.call (.map length .readWrite) = (.ok base, later)) (notNull : base ≠ 0)
    (below : later.BelowLimit) (fits : code.length < UInt64.size)
    (written : later.memory.write? base.toNat code.length (byteAt code) = some memory) :
    Sound page { later with memory } (Function.update live id (some (.forCode base code)))
        abandoned ∧
      Represents { later with memory } (Function.update live id (some (.forCode base code)))
        ({ store with plans := later.plans }.set id (some ⟨code, .writable⟩)) := by
  have mapped := sound.call_map empty rounds called notNull below
  have zeroed := represents.call_map sound id rounds called notNull
  have size : (UInt64.ofNat code.length).toNat = code.length := UInt64.toNat_ofNat_of_lt' fits
  have self : ∀ entry : Option Region, Function.update live id entry id = entry :=
    fun entry => Function.update_self id entry live
  obtain ⟨block, found, holds⟩ := zeroed.contents.held (self _)
  cases (Function.update_self id _ store.block?).symm.trans found
  have spliced :=
    @Holds.splice _ _ _ holds 0 _ _ written (by rw [List.length_replicate, size]; omega)
  rw [splice_zeros fits] at spliced
  have filled := @Represents.write _ _ _ _ _ _ _ _ zeroed mapped (self _) 0 _ _ _ written
    (by rw [size]; omega) spliced
  rw [set_set] at filled
  exact ⟨mapped.withBytes (Memory.perms?_write? written), filled⟩

end Represents

/-- Fresh memory can be written at once. -/
theorem Host.Plain.mapped_write {host later : Host} (plain : host.Plain)
    (aligned : host.cursor % placement = 0) {length base : UInt64}
    (called : host.call (.map length .readWrite) = (.ok base, later)) (notNull : base ≠ 0)
    {count : Nat} (inside : count ≤ length.toNat) (content : Nat → UInt8) :
    (later.memory.write? base.toNat count content).isSome := by
  obtain ⟨rfl, fits, plans, _, rfl⟩ := plain.call_map called notNull
  have range := Host.pageRange_of_cursor aligned fits
  have permitted : Memory.permits (Host.mapped { host with plans } length .readWrite).memory
      Perms.write (UInt64.ofNat (mapBase + host.cursor)).toNat count = true := by
    rw [Memory.permits_eq_true_iff]
    intro address low high
    refine ⟨.zeroed .readWrite, if_pos (range.page_mem low ?_), rfl⟩
    omega
  unfold Memory.write?
  rw [if_pos permitted]
  rfl

theorem Host.Ready.mapped_write {host later : Host} (ready : host.Ready) {length base : UInt64}
    (called : host.call (.map length .readWrite) = (.ok base, later)) (notNull : base ≠ 0)
    {count : Nat} (inside : count ≤ length.toNat) (content : Nat → UInt8) :
    (later.memory.write? base.toNat count content).isSome :=
  ready.plain.mapped_write ready.cursor_mod called notNull inside content

/-- The step of the store shows as the result and leads to a store that represents the machine. -/
def Refines (step : Outcome × Store) (result : Except Halt Value) (host : Host)
    (live : SlotId → Option Region) : Prop :=
  step.1.Shows result ∧ Represents host live step.2

/-! `ofCode` takes several host calls. Once the code is in fresh memory, either access to it is
changed and the region is there, or it is not, and the region is discarded. -/

section OfCode

variable {page : UInt64} {host mapped refused later : Host} {live : SlotId → Option Region}
  {store : Store} {abandoned : List Region} {id : SlotId} {code : List UInt8}
  {length base value : UInt64} {errno : Errno} {reply : Reply} {memory : Memory}
  (represents : Represents host live store) (sound : Sound page host live abandoned)
  (empty : live id = none)
  (rounds : mappingLength (.ofNat code.length) page = .ok (some length))
  (called : host.call (.map length .readWrite) = (.ok base, mapped)) (notNull : base ≠ 0)
  (fits : code.length < UInt64.size)
  (written : mapped.memory.write? base.toNat code.length (byteAt code) = some memory)
  (below : later.BelowLimit)
include represents sound empty rounds called notNull fits written below

theorem Represents.refines_compiled
    (changed : { mapped with memory }.call (.protect base length .readExec) = (.ok value, later)) :
    Refines (store.call page id (.ofCode code)) (.ok (.address base)) later
      (Function.update live id (some ⟨base, .ofNat code.length, .executable⟩)) := by
  have before := below.of_call changed
  obtain ⟨filled, holdsCode⟩ := represents.call_map_write sound empty rounds called notNull before
    fits written
  have held : Function.update live id (some (.forCode base code)) id = some (.forCode base code) :=
    Function.update_self id _ live
  obtain ⟨block, found, holds⟩ := holdsCode.contents.held held
  cases (Function.update_self id _ store.block?).symm.trans found
  have finished := holdsCode.call_protect filled held holds rounds changed
  rw [Function.update_idem, set_set] at finished
  have asked := @Granted.ask _ _ { store with plans := mapped.plans } _ _ _
    (filled.answers_protect held rounds changed) rfl
  cases sound.length_eq rounds
  rw [Store.call, vacant_eq (represents.contents.absent empty),
    askMemory_granted sound.power sound.ready represents.plans rounds called notNull, onGrant_none,
    asked]
  exact ⟨.created base, finished⟩

theorem Represents.refines_unprotected
    (denied : { mapped with memory }.call (.protect base length .readExec) =
      (.error errno, refused))
    (cleaned : refused.call (.unmap base length) = (reply, later)) :
    Refines (store.call page id (.ofCode code))
      (.error (.stop (.error (Mapping.classify .protect errno)))) later live := by
  have absent := represents.contents.absent empty
  -- the region is followed as if it had been in the slot until its memory is released
  have before := (below.of_call cleaned).of_call denied
  obtain ⟨filled, holdsCode⟩ := represents.call_map_write sound empty rounds called notNull before
    fits written
  have held : Function.update live id (some (.forCode base code)) id = some (.forCode base code) :=
    Function.update_self id _ live
  have stillFilled := filled.call_protect_error held rounds denied
  have stillHolds := holdsCode.call_protect_error filled held rounds denied
  have released := stillHolds.call_unmap stillFilled held rounds cleaned
  rw [update_undone empty, set_set] at released
  change Represents later live (Store.set { store with plans := later.plans } id none) at released
  rw [@set_none { store with plans := later.plans } id absent] at released
  have askedProtect := @Granted.ask _ _ { store with plans := mapped.plans } _ _ _
    (filled.answers_protect held rounds denied) rfl
  have askedUnmap := @Granted.ask _ _ { store with plans := refused.plans } _ _ _
    (stillFilled.answers_unmap held rounds cleaned) rfl
  cases sound.length_eq rounds
  rw [Store.call, vacant_eq absent,
    askMemory_granted sound.power sound.ready represents.plans rounds called notNull, onGrant_none,
    askedProtect]
  refine ⟨.failed _, ?_⟩
  show Represents later live (Store.ask _ .unmap).2
  rw [askedUnmap]
  exact released

end OfCode

section Turns

variable {page : UInt64} {host later : Host} {slots slots' : Slots} {id : SlotId}
  {call : RegionCall} {result : Except Halt Value} {calls : List SysCall} {abandoned : List Region}
  {store : Store}

/-- All slots in use hold regions. -/
def Slots.NoRaw (slots : Slots) : Prop := ∀ id address, slots.get? id ≠ some (.raw address)

theorem Turn.noRaw (turn : Turn host slots id call result calls later slots')
    (noRaw : slots.NoRaw) :
    slots'.NoRaw := by
  have inserted : ∀ region, (slots.insert id (.region region)).NoRaw := by
    intro region other address found
    rw [Slots.get?_insert] at found
    split at found
    · cases found
    · exact noRaw other address found
  have erased : (slots.erase id).NoRaw := by
    intro other address found
    rw [Slots.get?_erase] at found
    split at found
    · cases found
    · exact noRaw other address found
  cases turn with
  | allocated => exact inserted _
  | compiled => exact inserted _
  | madeExecutable => exact inserted _
  | freed => exact erased
  | freeRefused => exact erased
  | discarded => exact erased
  | _ => exact noRaw

/-- **One call.** -/
theorem Turn.refines (turn : Turn host slots id call result calls later slots')
    (sound : Sound page host slots.region? abandoned) (below : later.BelowLimit)
    (noRaw : slots.NoRaw)
    {inThread : Bool} (storable : (Step.library (.region id call) inThread).storable = true)
    (represents : Represents host slots.region? store) :
    Refines (store.call page id call) result later slots'.region? := by
  obtain rfl := sound.pageSize
  have power := sound.power
  have plans := represents.plans
  have contents := represents.contents
  cases turn with
  | missing uses absent =>
      have empty : store.block? id = none := by
        apply contents.absent
        unfold Slots.region?
        split
        · rename_i region found
          exact absurd found (absent region)
        · rfl
      have untouched : store.call host.pageSize id call = (.noSuchSlot, store) := by
        cases call with
        | allocate size => cases uses
        | ofCode code => cases uses
        | call arguments offset => cases storable
        | _ => simp [Store.call, Store.writing, Store.holding, empty]
      rw [untouched]
      exact ⟨.noSuchSlot, represents⟩
  | @occupied _ size slot creates held =>
      obtain ⟨region, rfl⟩ : ∃ region, slot = .region region := by
        cases slot with
        | raw address => exact absurd held (noRaw id address)
        | region region => exact ⟨region, rfl⟩
      obtain ⟨block, found, _⟩ := contents.held (Slots.region?_eq_some_iff.mpr held)
      have untouched : store.call host.pageSize id call = (.slotInUse, store) := by
        cases call with
        | allocate size => simp [Store.call, Store.vacant, found]
        | ofCode code => simp [Store.call, Store.vacant, found]
        | _ => cases creates
      rw [untouched]
      exact ⟨.slotInUse, represents⟩
  | tooLarge creates empty overflows =>
      have absent := contents.absent (Slots.region?_of_none empty)
      rw [call_of_failure creates absent (askMemory_tooLarge power overflows)]
      exact ⟨.failed .tooLarge, represents⟩
  | mapRefused creates empty rounds called =>
      have absent := contents.absent (Slots.region?_of_none empty)
      have after := represents.call_map_failed sound called (.inr ⟨_, rfl⟩)
      cases sound.length_eq rounds
      rw [call_of_failure creates absent (askMemory_refused power sound.ready plans rounds called)]
      exact ⟨.failed _, after⟩
  | mapNull creates empty rounds called =>
      have absent := contents.absent (Slots.region?_of_none empty)
      have after := represents.call_map_failed sound called (.inl rfl)
      cases sound.length_eq rounds
      rw [call_of_failure creates absent (askMemory_null power sound.ready plans rounds called)]
      exact ⟨.nullMapping _, after⟩
  | allocated empty rounds called notNull =>
      have absent := contents.absent (Slots.region?_of_none empty)
      have after := represents.call_map sound id rounds called notNull
      cases sound.length_eq rounds
      rw [Store.call, vacant_eq absent,
        askMemory_granted power sound.ready plans rounds called notNull,
        Slots.region?_insert]
      exact ⟨.created _, after⟩
  | compiled empty rounds called notNull fits written changed =>
      rw [Slots.region?_insert]
      exact represents.refines_compiled sound (Slots.region?_of_none empty) rounds called notNull
        fits written below changed
  | unprotected empty rounds called notNull fits written denied cleaned =>
      exact represents.refines_unprotected sound (Slots.region?_of_none empty) rounds called notNull
        fits written below denied cleaned
  | overlong empty rounds called notNull tooLong cleaned =>
      exact absurd (of_decide_eq_true storable) tooLong
  | @unwritable code _ _ _ empty rounds called notNull fits refused =>
      have covers := (mappingLength_eq_some power rounds).2
      rw [UInt64.toNat_ofNat_of_lt' fits] at covers
      -- memory that was just mapped can be written
      have writes := sound.ready.mapped_write called notNull covers (byteAt code)
      rw [refused] at writes
      cases writes
  | info held rounds =>
      obtain ⟨block, found, holds⟩ := contents.held (Slots.region?_eq_some_iff.mpr held)
      rw [Store.call, holding_eq found, ← holds.size, ← holds.state]
      exact ⟨.info _ _, represents⟩
  | @read region start stop held =>
      have live := Slots.region?_eq_some_iff.mpr held
      obtain ⟨block, found, holds⟩ := contents.held live
      have upTo : (stop.map UInt64.toNat).getD block.bytes.length =
          (stop.getD region.size).toNat := by
        cases stop with
        | none => exact holds.size.symm
        | some stop => rfl
      rw [Store.call, holding_eq found, upTo]
      exact ⟨holds.read_shows (sound.owned id region live) power start _, represents⟩
  | called held => cases storable
  | locked changes held executable =>
      obtain ⟨block, found, holds⟩ := contents.held (Slots.region?_eq_some_iff.mpr held)
      have state := holds.state.symm.trans executable
      have untouched : store.call host.pageSize id call = (.failed .invalidState, store) := by
        cases call with
        | makeExecutable => rw [Store.call, writing_locked found state]
        | write offset bytes => rw [Store.call, writing_locked found state]
        | fill byte => rw [Store.call, writing_locked found state]
        | _ => cases changes
      rw [untouched]
      exact ⟨.failed .invalidState, represents⟩
  | outside held writable outside =>
      obtain ⟨block, found, holds⟩ := contents.held (Slots.region?_eq_some_iff.mpr held)
      rw [holds.size] at outside
      rw [Store.call, writing_eq found (holds.state.symm.trans writable), if_neg outside]
      exact ⟨.failed .invalidArgument, represents⟩
  | written held writable inside written =>
      have live := Slots.region?_eq_some_iff.mpr held
      obtain ⟨block, found, holds⟩ := contents.held live
      have spliced := represents.write sound live written inside
        (holds.splice written (holds.size ▸ inside))
      rw [holds.size] at inside
      rw [Store.call, writing_eq found (holds.state.symm.trans writable), if_pos inside]
      exact ⟨.done, spliced⟩
  | @writeFault _ _ bytes held writable inside refused =>
      -- a writable region owns writable pages, so it cannot fault
      have owned := sound.owned id _ (Slots.region?_eq_some_iff.mpr held)
      have writes := owned.write_isSome power writable inside (byteAt bytes)
      rw [refused] at writes
      cases writes
  | filled held writable written =>
      have live := Slots.region?_eq_some_iff.mpr held
      obtain ⟨block, found, holds⟩ := contents.held live
      have filled := @Represents.write _ _ _ _ _ _ _ _ represents sound live 0 _ _ _ written
        (Nat.le_of_eq (Nat.zero_add _)) (holds.fill written)
      rw [Store.call, writing_eq found (holds.state.symm.trans writable), ← holds.size]
      exact ⟨.filled _, filled⟩
  | @fillFault _ byte held writable refused =>
      have owned := sound.owned id _ (Slots.region?_eq_some_iff.mpr held)
      have writes := @Region.Owned.write_isSome _ _ _ owned power writable 0 _
        (Nat.le_of_eq (Nat.zero_add _)) (fun _ => byte)
      rw [Nat.add_zero, refused] at writes
      cases writes
  | madeExecutable held writable rounds called =>
      have live := Slots.region?_eq_some_iff.mpr held
      obtain ⟨block, found, holds⟩ := contents.held live
      have asked := (sound.answers_protect live rounds called).ask plans
      rw [Store.call, writing_eq found (holds.state.symm.trans writable), asked,
        Slots.region?_insert]
      exact ⟨.done, represents.call_protect sound live holds rounds called⟩
  | notMadeExecutable held writable rounds called =>
      have live := Slots.region?_eq_some_iff.mpr held
      obtain ⟨block, found, holds⟩ := contents.held live
      have asked := (sound.answers_protect live rounds called).ask plans
      rw [Store.call, writing_eq found (holds.state.symm.trans writable), asked]
      exact ⟨.failed _, represents.call_protect_error sound live rounds called⟩
  | freed held rounds called =>
      have live := Slots.region?_eq_some_iff.mpr held
      obtain ⟨block, found, _⟩ := contents.held live
      have asked := (sound.answers_unmap live rounds called).ask plans
      rw [Store.call, holding_eq found, asked, Slots.region?_erase]
      exact ⟨.done, represents.call_unmap sound live rounds called⟩
  | freeRefused held rounds called =>
      have live := Slots.region?_eq_some_iff.mpr held
      obtain ⟨block, found, _⟩ := contents.held live
      have asked := (sound.answers_unmap live rounds called).ask plans
      rw [Store.call, holding_eq found, asked, Slots.region?_erase]
      exact ⟨.failed _, represents.call_unmap sound live rounds called⟩
  | discarded held rounds called =>
      have live := Slots.region?_eq_some_iff.mpr held
      obtain ⟨block, found, _⟩ := contents.held live
      have asked := (sound.answers_unmap live rounds called).ask plans
      rw [Store.call, holding_eq found, asked, Slots.region?_erase]
      exact ⟨.done, represents.call_unmap sound live rounds called⟩

end Turns

/-! ## Steps and runs -/

theorem Step.regional_of_storable {step : Step} (storable : step.storable = true) :
    step.regional = true := by
  cases step with
  | library call inThread =>
      cases call with
      | region id call => rfl
      | _ => cases storable
  | host action =>
      cases action with
      | plan plan => exact storable
      | _ => cases storable

namespace Machine

variable {page : UInt64} {machine : Machine} {abandoned : List Region} {store : Store}

theorem step_refines (logging : Logging) {step : Step} (storable : step.storable = true)
    (sound : Sound page machine.host machine.slots.region? abandoned)
    (below : (machine.step logging step).2.host.BelowLimit) (noRaw : machine.slots.NoRaw)
    (represents : Represents machine.host machine.slots.region? store) :
    Refines (store.step page step) (machine.step logging step).1.result
        (machine.step logging step).2.host (machine.step logging step).2.slots.region? ∧
      (machine.step logging step).2.slots.NoRaw := by
  cases step with
  | host action =>
      obtain ⟨result, host, steps, turn⟩ := hostStep_turn logging machine action
      rw [steps.result_eq, steps.host_eq, steps.slots_eq]
      refine ⟨?_, noRaw⟩
      cases turn with
      | planned plan =>
          refine ⟨.done, ?_, represents.contents⟩
          show machine.host.plans ++ [plan] = store.plans ++ [plan]
          rw [represents.plans]
      | _ => cases storable
  | library call inThread =>
      cases call with
      | region id call =>
          have power := sound.power
          rw [← sound.pageSize] at power
          obtain ⟨result, calls, host, slots, steps, turn⟩ :=
            regionStep_turn logging machine id call inThread power sound.sized
          rw [steps.host_eq] at below
          rw [steps.result_eq, steps.host_eq, steps.slots_eq]
          exact ⟨turn.refines sound below noRaw storable represents, turn.noRaw noRaw⟩
      | _ => cases storable

/-- **Every script.** -/
theorem run_refines (logging : Logging) {steps : List Step}
    (storable : ∀ step ∈ steps, step.storable = true)
    (sound : Sound page machine.host machine.slots.region? abandoned)
    (below : (machine.run logging steps).2.host.BelowLimit) (noRaw : machine.slots.NoRaw)
    (represents : Represents machine.host machine.slots.region? store) :
    List.Forall₂ Outcome.Shows (store.run page steps).1
        ((machine.run logging steps).1.map Answer.result) ∧
      (machine.run logging steps).2.slots.NoRaw ∧
      Represents (machine.run logging steps).2.host (machine.run logging steps).2.slots.region?
        (store.run page steps).2 := by
  induction steps generalizing machine abandoned store with
  | nil => exact ⟨.nil, noRaw, represents⟩
  | cons step later ih =>
      have storableNow := storable step List.mem_cons_self
      have here := @Host.BelowLimit.of_run (machine.step logging step).2 logging later below
      have soundNext := step_sound logging (Step.regional_of_storable storableNow) sound here
      obtain ⟨⟨shows, next⟩, noRawNext⟩ :=
        step_refines logging storableNow sound here noRaw represents
      obtain ⟨showsLater, last⟩ :=
        ih (fun other member => storable other (List.mem_cons_of_mem _ member)) soundNext below
        noRawNext next
      exact ⟨.cons shows showsLater, last⟩

end Machine

/-- **Regions refine the region store.** For any script of operations on regions and planned
refusals, on a host that reports a power of two as its page size and hands out memory below the
address limit: step by step, the results are those of the store, so that no operation faults; and in
the end the same slots are in use, and each region has the size and the state of its block and reads
back as its bytes. -/
theorem regions_refine_store (logging : Logging) {page : UInt64}
    (power : page.toNat.isPowerOfTwo) {steps : List Step}
    (storable : ∀ step ∈ steps, step.storable = true)
    (below : ((Machine.fresh page).run logging steps).2.host.BelowLimit) :
    let concrete := (Machine.fresh page).run logging steps
    let abstract := Store.empty.run page steps
    List.Forall₂ Outcome.Shows abstract.1 (concrete.1.map Answer.result) ∧
    ∀ id, (concrete.2.slots.get? id = none ∧ abstract.2.block? id = none) ∨
      ∃ region block, concrete.2.slots.get? id = some (.region region) ∧
        abstract.2.block? id = some block ∧ region.size.toNat = block.bytes.length ∧
        region.state = block.state ∧
        concrete.2.host.memory.read? region.base.toNat region.size.toNat = some block.bytes := by
  have start := Machine.fresh_sound power
  have regional := fun step member => Step.regional_of_storable (storable step member)
  have sound := Machine.run_sound logging regional start below
  have noRaw : (Machine.fresh page).slots.NoRaw := fun id address found => nomatch found
  have represents : Represents (Machine.fresh page).host (Machine.fresh page).slots.region?
      .empty :=
    ⟨rfl, fun id => .none⟩
  obtain ⟨shows, noRawLast, last⟩ :=
    Machine.run_refines logging storable start below noRaw represents
  refine ⟨shows, fun id => ?_⟩
  cases found : ((Machine.fresh page).run logging steps).2.slots.get? id with
  | none => exact .inl ⟨rfl, last.contents.absent (Slots.region?_of_none found)⟩
  | some slot =>
      cases slot with
      | raw address => exact absurd found (noRawLast id address)
      | region region =>
          have held := Slots.region?_eq_some_iff.mpr found
          obtain ⟨block, stored, holds⟩ := last.contents.held held
          refine .inr ⟨region, block, rfl, stored, holds.size, holds.state, ?_⟩
          have permitted := @Region.Owned.permits _ _ _ (sound.owned id region held) power _
            region.state.readable_perms 0 region.size.toNat (Nat.le_of_eq (Nat.zero_add _))
          have loaded := @Holds.load_eq _ _ _ holds 0 region.size.toNat (by rw [holds.size]; omega)
          rw [Nat.add_zero] at permitted loaded
          rw [Memory.read?, if_pos permitted, loaded, List.drop_zero, holds.size, List.take_length]

/-- A script that works on two regions in turn; one change of access is refused. -/
def interleaved : List Step := [
  .library (.region 0 (.allocate 4)) false,
  .library (.region 1 (.ofCode [0xb0, 0x07, 0xc3])) true,
  .library (.region 0 (.write 1 [5, 6])) false,
  .host (.plan ⟨0, .refuse .protect .accessDenied⟩),
  .library (.region 0 .makeExecutable) false,
  .library (.region 1 (.fill 9)) false,
  .library (.region 0 (.read 0 none)) false,
  .library (.region 1 .discard) false]

theorem regions_refine_store_interleaved :
    List.Forall₂ Outcome.Shows
      [.created, .created, .done, .done, .failed (.unsupportedTransition .accessDenied),
        .failed .invalidState, .bytes [0, 5, 6, 0], .done]
      (((Machine.fresh 4096).run .silent interleaved).1.map Answer.result) ∧
    ((Machine.fresh 4096).run .silent interleaved).2.slots.get? 1 = none ∧
    ∃ region, ((Machine.fresh 4096).run .silent interleaved).2.slots.get? 0 =
        some (.region region) ∧
      region.state = .writable ∧
      ((Machine.fresh 4096).run .silent interleaved).2.host.memory.read? region.base.toNat
        region.size.toNat = some [0, 5, 6, 0] := by
  have below : ((Machine.fresh 4096).run .silent interleaved).2.host.BelowLimit := by
    unfold Host.BelowLimit
    decide +kernel
  obtain ⟨shows, slots⟩ := regions_refine_store .silent (by decide) (by decide) below
  refine ⟨shows, ?_, ?_⟩
  · rcases slots 1 with ⟨empty, _⟩ | ⟨_, _, _, stored, _⟩
    · exact empty
    · cases stored
  · rcases slots 0 with ⟨_, absent⟩ | ⟨region, block, held, stored, _, state, content⟩
    · cases absent
    · cases stored
      exact ⟨region, held, state, content⟩

end ExecMemory
