import ExecMemory.Proofs.Contents

/-!
# Which pages a call can reach

A call on a region changes only pages of that region, or pages that were not mapped before. All
other pages keep their permissions and every byte, the padding behind a region's last byte included.

* A write changes only the pages it has bytes on, and these have to be writable
  (`Memory.page?_write?_of_away`, `Memory.page?_write?_of_locked`).
* `Placed` describes fresh memory with bytes at its start. Taking it back leaves what was there
  before (`Placed.unmapPages`).
* `Turn.page?_eq`, `Turn.get?_of_ne` and `Turn.eq_of_executable` say what a call leaves alone, and
  `Turn.makeExecutable_cases` what an attempt to make a region executable can do.
-/

namespace ExecMemory

/-! ## Writing -/

namespace Memory

variable {memory written : Memory} {start length n : Nat} {content : Nat → UInt8} {perms : Perms}

theorem write?_eq_some_iff : memory.write? start length content = some written ↔
    memory.permits Perms.write start length = true ∧
      memory.overwrite start length content = written := by
  unfold Memory.write?
  by_cases permitted : memory.permits Perms.write start length = true
  · simp [permitted]
  · simp [permitted]

/-- A page without a byte of the range is as it was. -/
theorem page?_overwrite_of_away
    (away : ∀ address, start ≤ address → address < start + length → address / pageBytes ≠ n) :
    (memory.overwrite start length content).page? n = memory.page? n := by
  show (memory.page? n).map _ = _
  cases memory.page? n with
  | none => rfl
  | some page =>
      rw [Option.map_some]
      congr 2
      funext i
      apply if_neg
      rintro ⟨low, high⟩
      refine away _ low high ?_
      have bound := i.isLt
      unfold pageBytes at *
      omega

theorem page?_write?_of_away (wrote : memory.write? start length content = some written)
    (away : ∀ address, start ≤ address → address < start + length → address / pageBytes ≠ n) :
    written.page? n = memory.page? n := by
  obtain ⟨_, rfl⟩ := write?_eq_some_iff.mp wrote
  exact page?_overwrite_of_away away

/-- A page that holds a byte of the range has to be writable. -/
theorem writable_of_write? (wrote : memory.write? start length content = some written)
    {address : Nat} (low : start ≤ address) (high : address < start + length)
    (mapped : memory.perms? (address / pageBytes) = some perms) : perms.write = true := by
  have permitted := (write?_eq_some_iff.mp wrote).1
  obtain ⟨page, found, allowed⟩ :=
    (memory.permits_eq_true_iff _ start length).mp permitted address low high
  unfold perms? at mapped
  rw [found] at mapped
  cases mapped
  exact allowed

/-- A write that succeeds leaves every page alone that is not writable. -/
theorem page?_write?_of_locked (wrote : memory.write? start length content = some written)
    (mapped : memory.perms? n = some perms) (locked : perms.write = false) :
    written.page? n = memory.page? n := by
  refine page?_write?_of_away wrote fun address low high onPage => ?_
  rw [← onPage] at mapped
  rw [writable_of_write? wrote low high mapped] at locked
  cases locked

/-- A range with a byte on a page that is not writable cannot be written at all. -/
theorem write?_of_locked {address : Nat} (low : start ≤ address) (high : address < start + length)
    (mapped : memory.perms? (address / pageBytes) = some perms) (locked : perms.write = false) :
    memory.write? start length content = none := by
  cases wrote : memory.write? start length content with
  | none => rfl
  | some written =>
      rw [writable_of_write? wrote low high mapped] at locked
      cases locked

end Memory

/-! ## Fresh memory -/

/-- Taking pages back that were added leaves what was there before. -/
theorem Memory.unmapPages_eq {memory before : Memory} {span : Span}
    (fresh : ∀ n ∈ span, before.page? n = none)
    (outside : ∀ n, n ∉ span → memory.page? n = before.page? n) :
    memory.unmapPages span = before := by
  apply Memory.ext
  funext n
  rw [page?_unmapPages]
  by_cases member : n ∈ span
  · rw [if_pos member, fresh n member]
  · rw [if_neg member, outside n member]

/-- From one memory to the other, the pages of a span were added: they can be read and written, and
hold the given bytes from `start` on and zeros behind them. -/
structure Placed (span : Span) (start : Nat) (bytes : List UInt8) (before after : Memory) :
    Prop where
  fresh : ∀ n ∈ span, before.page? n = none
  outside : ∀ n, n ∉ span → after.page? n = before.page? n
  inside : ∀ n ∈ span, after.page? n =
    some ⟨.readWrite, fun i => byteAt bytes (n * pageBytes + i - start)⟩

namespace Placed

variable {span : Span} {start : Nat} {bytes : List UInt8} {before after : Memory}
  (placed : Placed span start bytes before after)
include placed

/-- A page that was mapped before is none of the new ones. -/
theorem not_mem {n : Nat} (mapped : (before.page? n).isSome) : n ∉ span := by
  intro member
  rw [placed.fresh n member] at mapped
  cases mapped

theorem unmapPages : after.unmapPages span = before :=
  Memory.unmapPages_eq placed.fresh placed.outside

theorem byte?_eq {address : Nat} (member : address / pageBytes ∈ span) :
    after.byte? address = some (byteAt bytes (address - start)) := by
  unfold Memory.byte?
  rw [placed.inside _ member, Option.map_some]
  have split := Nat.div_add_mod' address pageBytes
  simp only [Fin.ofNat, split]

end Placed

/-- Behind the last byte there are zeros. -/
theorem byteAt_of_length_le {bytes : List UInt8} {i : Nat} (behind : bytes.length ≤ i) :
    byteAt bytes i = 0 := by
  simp [byteAt, behind]

/-- Bytes are written at the start of zeroed fresh memory. -/
theorem Placed.write {span : Span} {start : Nat} {bytes : List UInt8} {before zeroed after : Memory}
    (placed : Placed span start [] before zeroed)
    (begins : ∀ n ∈ span, start ≤ n * pageBytes)
    (within : ∀ address, start ≤ address → address < start + bytes.length →
      address / pageBytes ∈ span)
    (wrote : zeroed.write? start bytes.length (byteAt bytes) = some after) :
    Placed span start bytes before after := by
  refine ⟨placed.fresh, fun n outside => ?_, fun n member => ?_⟩
  · rw [Memory.page?_write?_of_away wrote, placed.outside n outside]
    intro address low high onPage
    exact outside (onPage ▸ within address low high)
  · obtain ⟨_, rfl⟩ := Memory.write?_eq_some_iff.mp wrote
    show (zeroed.page? n).map _ = _
    rw [placed.inside n member, Option.map_some]
    congr 2
    funext i
    have low : start ≤ n * pageBytes + i := Nat.le_trans (begins n member) (Nat.le_add_right _ _)
    dsimp only
    by_cases short : n * pageBytes + i < start + bytes.length
    · rw [if_pos ⟨low, short⟩]
    · rw [if_neg fun both => short both.2]
      exact (byteAt_of_length_le (by omega)).symm

namespace Sound

variable {page : UInt64} {host later : Host} {live : SlotId → Option Region}
  {abandoned : List Region} {id : SlotId} {size length base : UInt64} {code : List UInt8}
  {memory : Memory}
  (sound : Sound page host live abandoned)
include sound

/-- The host maps memory that was not mapped before. -/
theorem placed_map (rounds : mappingLength size page = .ok (some length))
    (called : host.call (.map length .readWrite) = (.ok base, later)) (notNull : base ≠ 0) :
    PageRange base length ∧
      Placed (Region.span ⟨base, size, .writable⟩ page) base.toNat [] host.memory later.memory := by
  cases sound.length_eq rounds
  obtain ⟨rfl, fits, plans, _, rfl⟩ := sound.ready.call_map called notNull
  have range := sound.ready.pageRange fits
  refine ⟨range, ?_⟩
  rw [← @Region.ofRange_eq ⟨.ofNat (mapBase + host.cursor), size, .writable⟩ page range]
  refine ⟨fun n member => ?_, fun n outside => if_neg outside, fun n member => if_pos member⟩
  cases found : host.memory.page? n with
  | none => rfl
  | some content =>
      have mapped : host.memory.perms? n = some content.perms := by
        unfold Memory.perms?
        rw [found, Option.map_some]
      have behind := sound.frontier n _ mapped
      have ahead := (range.mem_ofRange_iff n).mp member
      rw [sound.ready.toNat_next] at ahead
      unfold pageBytes at *
      omega

/-- The first half of `ofCode`: fresh memory, and the code in it. -/
theorem placed_code (rounds : mappingLength (.ofNat code.length) page = .ok (some length))
    (called : host.call (.map length .readWrite) = (.ok base, later)) (notNull : base ≠ 0)
    (fits : code.length < UInt64.size)
    (written : later.memory.write? base.toNat code.length (byteAt code) = some memory) :
    Placed (Region.span (.forCode base code) page) base.toNat code host.memory memory := by
  obtain ⟨range, placed⟩ := sound.placed_map rounds called notNull
  have covers := (mappingLength_eq_some sound.power rounds).2
  rw [UInt64.toNat_ofNat_of_lt' fits] at covers
  cases sound.length_eq rounds
  rw [← @Region.ofRange_eq (.forCode base code) page range] at placed ⊢
  refine placed.write (fun n member => ((range.mem_ofRange_iff n).mp member).1) ?_ written
  intro address low high
  exact range.page_mem low (by omega)

/-- When access to the memory of the new region is refused, the code is still in it. -/
theorem placed_refused {refused : Host} {errno : Errno} (empty : live id = none)
    (rounds : mappingLength (.ofNat code.length) page = .ok (some length))
    (called : host.call (.map length .readWrite) = (.ok base, later)) (notNull : base ≠ 0)
    (fits : code.length < UInt64.size)
    (written : later.memory.write? base.toNat code.length (byteAt code) = some memory)
    (denied : { later with memory }.call (.protect base length .readExec) = (.error errno, refused))
    (below : refused.BelowLimit) :
    Sound page refused (Function.update live id (some (.forCode base code))) abandoned ∧
      Placed (Region.span (.forCode base code) page) base.toNat code host.memory
        refused.memory := by
  have placed := sound.placed_code rounds called notNull fits written
  have before := below.of_call denied
  have filled := (sound.call_map empty rounds called notNull before).withBytes
    (Memory.perms?_write? written)
  have held : Function.update live id (some (.forCode base code)) id = some (.forCode base code) :=
    Function.update_self id _ live
  refine ⟨filled.call_protect_error held rounds denied, ?_⟩
  cases filled.answers_protect held rounds denied with
  | refused taken => exact placed

/-- A region in fresh memory is discarded: memory is as it was before, unless the host refuses to
take the pages back. -/
theorem discarded {region : Region} {start : Nat} {bytes : List UInt8} {before : Memory}
    {reply : Reply} (held : live id = some region)
    (rounds : mappingLength region.size page = .ok (some length))
    (placed : Placed (region.span page) start bytes before host.memory)
    (called : host.call (.unmap region.base length) = (reply, later)) :
    reply.isOk ∧ later.memory = before ∨
      (∃ errno, reply = .error errno) ∧
        Placed (region.span page) start bytes before later.memory := by
  cases sound.answers_unmap held rounds called with
  | granted taken =>
      refine .inl ⟨rfl, ?_⟩
      rw [(sound.owned id region held).ofRange_eq]
      exact placed.unmapPages
  | refused taken => exact .inr ⟨⟨_, rfl⟩, placed⟩

end Sound

/-! ## What a call leaves alone -/

namespace Sound

variable {page : UInt64} {host later : Host} {live : SlotId → Option Region}
  {abandoned : List Region} {id : SlotId} {region : Region} {length : UInt64} {reply : Reply}
  {n : Nat}
  (sound : Sound page host live abandoned) (held : live id = some region)
  (rounds : mappingLength region.size page = .ok (some length)) (outside : n ∉ region.span page)
include sound held rounds outside

theorem page?_call_protect
    (called : host.call (.protect region.base length .readExec) = (reply, later)) :
    later.memory.page? n = host.memory.page? n := by
  cases sound.answers_protect held rounds called with
  | granted taken =>
      rw [← (sound.owned id region held).ofRange_eq] at outside
      exact if_neg outside
  | refused taken => rfl

theorem page?_call_unmap (called : host.call (.unmap region.base length) = (reply, later)) :
    later.memory.page? n = host.memory.page? n := by
  cases sound.answers_unmap held rounds called with
  | granted taken =>
      rw [← (sound.owned id region held).ofRange_eq] at outside
      exact if_neg outside
  | refused taken => rfl

end Sound

/-- The turn that a call on a region takes in a script. -/
theorem Sound.step_turn {page : UInt64} {machine : Machine} {abandoned : List Region}
    (sound : Sound page machine.host machine.slots.region? abandoned) (logging : Logging)
    (id : SlotId)
    (call : RegionCall) (inThread : Bool) :
    ∃ result calls host slots,
      machine.Steps logging (.library (.region id call) inThread) result calls host slots ∧
      Turn machine.host machine.slots id call result calls host slots := by
  have power := sound.power
  rw [← sound.pageSize] at power
  exact regionStep_turn logging machine id call inThread power sound.sized

/-- A call that ends the region of its slot. -/
def RegionCall.ends : RegionCall → Bool
  | .free | .discard => true
  | _ => false

section Turns

variable {page : UInt64} {host later : Host} {slots slots' : Slots} {id : SlotId}
  {call : RegionCall} {result : Except Halt Value} {calls : List SysCall} {abandoned : List Region}
  {region : Region}

/-- **A call reaches only the pages of its own region**, and pages that were not mapped. -/
theorem Turn.page?_eq (turn : Turn host slots id call result calls later slots')
    (sound : Sound page host slots.region? abandoned) (below : later.BelowLimit) {n : Nat}
    (mapped : (host.memory.page? n).isSome)
    (away : ∀ region, slots.region? id = some region → n ∉ region.span page) :
    later.memory.page? n = host.memory.page? n := by
  obtain rfl := sound.pageSize
  -- the bytes of the region in the slot lie on its pages
  have wrote : ∀ {region : Region} {start length : Nat} {content : Nat → UInt8} {memory : Memory},
      slots.get? id = some (.region region) → start + length ≤ region.size.toNat →
      host.memory.write? (region.base.toNat + start) length content = some memory →
      memory.page? n = host.memory.page? n := by
    intro region start length content memory held inside wrote
    have live := Slots.region?_eq_some_iff.mpr held
    refine Memory.page?_write?_of_away wrote fun address low high onPage => away region live ?_
    rw [← onPage]
    exact (sound.owned id region live).page_mem sound.power (by omega) (by omega)
  -- a region that could not be finished had fresh memory
  have gone : ∀ {unfinished : Host} {region : Region} {length : UInt64} {reply : Reply}
      {bytes : List UInt8},
      Sound host.pageSize unfinished (Function.update slots.region? id (some region)) abandoned →
      mappingLength region.size host.pageSize = .ok (some length) →
      Placed (region.span host.pageSize) region.base.toNat bytes host.memory unfinished.memory →
      unfinished.call (.unmap region.base length) = (reply, later) →
      later.memory.page? n = host.memory.page? n := by
    intro unfinished region length reply bytes sound rounds placed cleaned
    rcases sound.discarded (Function.update_self _ _ _) rounds placed cleaned with
      ⟨_, restored⟩ | ⟨_, left⟩
    · rw [restored]
    · exact left.outside n (left.not_mem mapped)
  cases turn with
  | mapRefused creates empty rounds called =>
      obtain ⟨_, _, _, rfl, _⟩ := sound.ready.call_map_error called
      rfl
  | mapNull creates empty rounds called =>
      obtain ⟨_, _, rfl⟩ := sound.ready.call_map_null called
      rfl
  | allocated empty rounds called notNull =>
      have placed := (sound.placed_map rounds called notNull).2
      exact placed.outside n (placed.not_mem mapped)
  | compiled empty rounds called notNull fits written changed =>
      have placed := sound.placed_code rounds called notNull fits written
      have absent := Slots.region?_of_none empty
      have before := below.of_call changed
      have filled := (sound.call_map absent rounds called notNull before).withBytes
        (Memory.perms?_write? written)
      rw [filled.page?_call_protect (Function.update_self _ _ _) rounds (placed.not_mem mapped)
        changed]
      exact placed.outside n (placed.not_mem mapped)
  | unprotected empty rounds called notNull fits written denied cleaned =>
      obtain ⟨refused, placed⟩ := sound.placed_refused (Slots.region?_of_none empty) rounds called
        notNull fits written denied (below.of_call cleaned)
      exact gone refused rounds placed cleaned
  | overlong empty rounds called notNull tooLong cleaned =>
      have placed := (sound.placed_map rounds called notNull).2
      have zeroed := sound.call_map (Slots.region?_of_none empty) rounds called notNull
        (below.of_call cleaned)
      exact gone zeroed rounds placed cleaned
  | written held writable inside written => exact wrote held inside written
  | filled held writable written =>
      exact @wrote _ 0 _ _ _ held (Nat.le_of_eq (Nat.zero_add _)) written
  | madeExecutable held writable rounds called =>
      have live := Slots.region?_eq_some_iff.mpr held
      exact sound.page?_call_protect live rounds (away _ live) called
  | notMadeExecutable held writable rounds called =>
      have live := Slots.region?_eq_some_iff.mpr held
      exact sound.page?_call_protect live rounds (away _ live) called
  | freed held rounds called =>
      have live := Slots.region?_eq_some_iff.mpr held
      exact sound.page?_call_unmap live rounds (away _ live) called
  | freeRefused held rounds called =>
      have live := Slots.region?_eq_some_iff.mpr held
      exact sound.page?_call_unmap live rounds (away _ live) called
  | discarded held rounds called =>
      have live := Slots.region?_eq_some_iff.mpr held
      exact sound.page?_call_unmap live rounds (away _ live) called
  | _ => rfl

/-- Only the slot of the call changes. -/
theorem Turn.get?_of_ne (turn : Turn host slots id call result calls later slots') {other : SlotId}
    (different : other ≠ id) : slots'.get? other = slots.get? other := by
  have inserted : ∀ slot, (slots.insert id slot).get? other = slots.get? other := by
    intro slot
    rw [Slots.get?_insert, if_neg different]
  have erased : (slots.erase id).get? other = slots.get? other := by
    rw [Slots.get?_erase, if_neg different]
  cases turn with
  | allocated => exact inserted _
  | compiled => exact inserted _
  | madeExecutable => exact inserted _
  | freed => exact erased
  | freeRefused => exact erased
  | discarded => exact erased
  | _ => rfl

/-- A call on an executable region does nothing, unless it ends the region. -/
theorem Turn.eq_of_executable (turn : Turn host slots id call result calls later slots')
    (held : slots.get? id = some (.region region)) (executable : region.state = .executable)
    (stays : call.ends = false) : later = host ∧ slots' = slots := by
  have occupied : slots.get? id ≠ none := by
    rw [held]
    exact nofun
  have locked : ∀ other, slots.get? id = some (.region other) → other.state ≠ .writable := by
    intro other found writable
    cases held.symm.trans found
    cases writable.symm.trans executable
  cases turn with
  | mapRefused creates empty rounds called => exact absurd empty occupied
  | mapNull creates empty rounds called => exact absurd empty occupied
  | allocated empty rounds called notNull => exact absurd empty occupied
  | compiled empty rounds called notNull fits written changed => exact absurd empty occupied
  | unprotected empty rounds called notNull fits written denied cleaned =>
      exact absurd empty occupied
  | overlong empty rounds called notNull tooLong cleaned => exact absurd empty occupied
  | written found writable inside written => exact absurd writable (locked _ found)
  | filled found writable written => exact absurd writable (locked _ found)
  | madeExecutable found writable rounds called => exact absurd writable (locked _ found)
  | notMadeExecutable found writable rounds called => exact absurd writable (locked _ found)
  | freed found rounds called => cases stays
  | freeRefused found rounds called => cases stays
  | discarded found rounds called => cases stays
  | _ => exact ⟨rfl, rfl⟩

/-- An attempt to make a region executable does nothing, and then the region is not writable or a
fault was planned; or it succeeds. -/
theorem Turn.makeExecutable_cases
    (turn : Turn host slots id .makeExecutable result calls later slots')
    (sound : Sound page host slots.region? abandoned) :
    (later.memory = host.memory ∧ slots' = slots ∧ result ≠ .ok .unit ∧
      ∀ region, slots.get? id = some (.region region) → region.state = .writable →
        host.plans ≠ []) ∨
    ∃ region, slots.get? id = some (.region region) ∧ region.state = .writable ∧
      later.memory = host.memory.protectPages (region.span page) .readExec ∧
      slots' = slots.insert id (.region { region with state := .executable }) ∧
      result = .ok .unit := by
  obtain rfl := sound.pageSize
  cases turn with
  | missing uses absent =>
      exact .inl ⟨rfl, rfl, nofun, fun region held => absurd held (absent region)⟩
  | locked changes held executable =>
      refine .inl ⟨rfl, rfl, nofun, fun region found writable => ?_⟩
      cases held.symm.trans found
      cases executable.symm.trans writable
  | notMadeExecutable held writable rounds called =>
      have live := Slots.region?_eq_some_iff.mpr held
      cases sound.answers_protect live rounds called with
      | refused taken =>
          refine .inl ⟨rfl, rfl, nofun, fun _ _ _ none => ?_⟩
          rw [none] at taken
          cases taken
  | @madeExecutable region _ _ _ held writable rounds called =>
      have live := Slots.region?_eq_some_iff.mpr held
      refine .inr ⟨region, held, writable, ?_, rfl, rfl⟩
      cases sound.answers_protect live rounds called with
      | granted taken => rw [(sound.owned id region live).ofRange_eq]
  | occupied creates held => cases creates
  | tooLarge creates empty overflows => cases creates
  | mapRefused creates empty rounds called => cases creates
  | mapNull creates empty rounds called => cases creates

end Turns

end ExecMemory
