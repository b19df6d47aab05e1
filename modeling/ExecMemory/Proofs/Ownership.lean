import ExecMemory.Proofs.HostReplies
import ExecMemory.Proofs.Turns
import Mathlib.Logic.Function.Basic

/-!
# Regions own their pages

A region remembers an address, a size and a state, and computes its pages anew whenever it needs
them. `Sound` ties this to the page table: the pages of every live region are mapped with the
permissions of its state, no page belongs to two live regions, and every mapped page belongs to a
live region or to one that ended without the host taking its memory back.

* One lemma for each thing a host call can do says how `Sound` follows it (`Sound.mapped`,
  `Sound.reprotected`, `Sound.unmapped`, `Sound.abandon`).
* `Turn.sound` puts them together for a call on a region, `Machine.run_sound` for a script.
-/

namespace ExecMemory

/-! ## The pages of a region -/

/-- The permissions of the pages of a region in this state. -/
def RegionState.perms : RegionState → Perms
  | .writable => .readWrite
  | .executable => .readExec

/-- The pages of a region: from its base on, as many as the bytes mapped for it take up. -/
def Region.span (region : Region) (page : UInt64) : Span where
  first := region.base.toNat / pageBytes
  count := leastMultiple (mappedBytes region.size page).toNat pageBytes / pageBytes

/-- The region a slot holds. -/
def Slots.region? (slots : Slots) (id : SlotId) : Option Region :=
  match slots.get? id with
  | some (.region region) => some region
  | _ => none

namespace Slots

variable {slots : Slots} {id : SlotId} {region : Region}

theorem region?_eq_some_iff :
    slots.region? id = some region ↔ slots.get? id = some (.region region) := by
  unfold region?
  cases slots.get? id with
  | none => simp
  | some slot => cases slot <;> simp

theorem region?_of_none (empty : slots.get? id = none) : slots.region? id = none := by
  unfold region?
  rw [empty]

theorem region?_insert :
    (slots.insert id (.region region)).region? =
      Function.update slots.region? id (some region) := by
  funext other
  unfold region?
  rw [get?_insert, Function.update_apply]
  by_cases same : other = id
  · rw [if_pos same, if_pos same]
  · rw [if_neg same, if_neg same]

theorem region?_erase : (slots.erase id).region? = Function.update slots.region? id none := by
  funext other
  unfold region?
  rw [get?_erase, Function.update_apply]
  by_cases same : other = id
  · rw [if_pos same, if_pos same]
  · rw [if_neg same, if_neg same]

end Slots

section Live

variable {live : SlotId → Option Region} {id other : SlotId} {entry : Option Region}
  {region : Region}

theorem held_update (held : Function.update live id entry other = some region) :
    other = id ∧ entry = some region ∨ other ≠ id ∧ live other = some region := by
  by_cases same : other = id
  · subst same
    rw [Function.update_self] at held
    exact .inl ⟨rfl, held⟩
  · rw [Function.update_of_ne same] at held
    exact .inr ⟨same, held⟩

/-- A slot that was filled and emptied again is as it was. -/
theorem update_undone (empty : live id = none) (entry : Option Region) :
    Function.update (Function.update live id entry) id none = live := by
  rw [Function.update_idem, ← empty, Function.update_eq_self]

/-- Regions of different slots are related. -/
def Apart (R : Region → Region → Prop) (live : SlotId → Option Region) : Prop :=
  ∀ id other region neighbour, id ≠ other → live id = some region → live other = some neighbour →
    R region neighbour

/-- When one slot changes, its region has to be compared with those of the other slots. -/
theorem Apart.update {R : Region → Region → Prop} (apart : Apart R live)
    (symm : ∀ region neighbour, R region neighbour → R neighbour region)
    (compare : ∀ other neighbour region, other ≠ id → live other = some neighbour →
      entry = some region → R neighbour region) :
    Apart R (Function.update live id entry) := by
  intro one other first second different heldFirst heldSecond
  rcases held_update heldFirst with ⟨isOne, filledFirst⟩ | ⟨oneElse, oldFirst⟩
  · rcases held_update heldSecond with ⟨isOther, _⟩ | ⟨otherElse, oldSecond⟩
    · exact absurd (isOne.trans isOther.symm) different
    · exact symm _ _ (compare other second first otherElse oldSecond filledFirst)
  · rcases held_update heldSecond with ⟨_, filledSecond⟩ | ⟨_, oldSecond⟩
    · exact compare one first second oneElse oldFirst filledSecond
    · exact apart one other first second different oldFirst oldSecond

end Live

namespace Memory

/-- The permissions of a page, if it is mapped. -/
def perms? (memory : Memory) (n : Nat) : Option Perms := (memory.page? n).map Page.perms

variable {memory : Memory} {span : Span} {perms : Perms} {n : Nat}

theorem isSome_page?_of_perms? (mapped : memory.perms? n = some perms) :
    (memory.page? n).isSome := by
  obtain ⟨page, found, _⟩ := Option.map_eq_some_iff.mp mapped
  rw [found]
  rfl

theorem perms?_mapPages :
    (memory.mapPages span perms).perms? n = if n ∈ span then some perms else memory.perms? n := by
  unfold perms?
  rw [page?_mapPages]
  split
  · rfl
  · rfl

theorem perms?_protectPages :
    (memory.protectPages span perms).perms? n =
      if n ∈ span then (memory.perms? n).map fun _ => perms else memory.perms? n := by
  unfold perms?
  rw [page?_protectPages]
  split
  · rw [Option.map_map, Option.map_map]
    rfl
  · rfl

theorem perms?_unmapPages :
    (memory.unmapPages span).perms? n = if n ∈ span then none else memory.perms? n := by
  unfold perms?
  rw [page?_unmapPages]
  split
  · rfl
  · rfl

/-- Writing bytes changes no permissions. -/
theorem perms?_write? {start length : Nat} {content : Nat → UInt8} {written : Memory}
    (wrote : memory.write? start length content = some written) :
    written.perms? = memory.perms? := by
  funext n
  unfold Memory.write? at wrote
  split at wrote
  · cases wrote
    exact map_perms_page?_overwrite memory start length content n
  · cases wrote

end Memory

theorem Span.Disjoint.symm {s t : Span} (disjoint : s.Disjoint t) : t.Disjoint s :=
  fun n inT inS => disjoint n inS inT

/-! ## The invariant -/

/-- The pages of a region are its own: they lie where the host puts its mappings, and they are
mapped with the permissions of the region's state. -/
structure Region.Owned (region : Region) (page : UInt64) (host : Host) : Prop where
  rounds : mappingLength region.size page = .ok (some (mappedBytes region.size page))
  lies : Lies region.base (mappedBytes region.size page)
  mapped : ∀ n ∈ region.span page, host.memory.perms? n = some region.state.perms

/-- Live regions and the page table agree. `abandoned` are the regions that ended although the host
did not take their memory back. -/
structure Sound (page : UInt64) (host : Host) (live : SlotId → Option Region)
    (abandoned : List Region) : Prop where
  ready : host.Ready
  pageSize : host.pageSize = page
  power : page.toNat.isPowerOfTwo
  owned : ∀ id region, live id = some region → region.Owned page host
  apart : Apart (fun region neighbour => (region.span page).Disjoint (neighbour.span page)) live
  /-- Nothing is mapped where the host will put the next mapping. -/
  frontier : ∀ n perms, host.memory.perms? n = some perms →
    (n + 1) * pageBytes ≤ mapBase + host.cursor
  covered : ∀ n perms, host.memory.perms? n = some perms →
    (∃ id region, live id = some region ∧ n ∈ region.span page) ∨
      ∃ region ∈ abandoned, n ∈ region.span page

/-- The pages of a region are those that a host call about it acts on. -/
theorem Region.ofRange_eq {region : Region} {page : UInt64}
    (range : PageRange region.base (mappedBytes region.size page)) :
    Span.ofRange region.base (mappedBytes region.size page) = region.span page := by
  unfold Span.ofRange Region.span
  rw [toNat_wholePages range.nonempty]

theorem Region.Owned.ofRange_eq {region : Region} {page : UInt64} {host : Host}
    (owned : region.Owned page host) :
    Span.ofRange region.base (mappedBytes region.size page) = region.span page :=
  Region.ofRange_eq owned.lies.toPageRange

namespace Sound

variable {page : UInt64} {host : Host} {live : SlotId → Option Region} {abandoned : List Region}
  {id : SlotId} {region : Region} (sound : Sound page host live abandoned)
include sound

theorem withPlans {plans : List Plan} (plain : { host with plans }.Plain) :
    Sound page { host with plans } live abandoned where
  ready := sound.ready.withPlans plain
  pageSize := sound.pageSize
  power := sound.power
  owned id region held :=
    ⟨(sound.owned id region held).rounds, (sound.owned id region held).lies,
      (sound.owned id region held).mapped⟩
  apart := sound.apart
  frontier := sound.frontier
  covered := sound.covered

theorem taken {kind : CallKind} {fault : Option Fault} {plans : List Plan}
    (taken : Plan.take kind host.plans = (fault, plans)) :
    Sound page { host with plans } live abandoned :=
  sound.withPlans (sound.ready.plain.take taken)

/-- Memory may change as long as no permissions do. -/
theorem withBytes {memory : Memory} (same : memory.perms? = host.memory.perms?) :
    Sound page { host with memory } live abandoned where
  ready := sound.ready.withMemory memory
  pageSize := sound.pageSize
  power := sound.power
  owned id region held := by
    refine ⟨(sound.owned id region held).rounds, (sound.owned id region held).lies, ?_⟩
    rw [same]
    exact (sound.owned id region held).mapped
  apart := sound.apart
  frontier := by
    rw [same]
    exact sound.frontier
  covered := by
    rw [same]
    exact sound.covered

/-- One slot changes, and memory changes within one span. It is enough to look at that span: the
other live regions have no page there, and what is still mapped there belongs to the changed slot or
is abandoned. -/
theorem changed {later : Host} {entry : Option Region} {left : List Region} (span : Span)
    (ready : later.Ready) (pageSize : later.pageSize = page) (cursor : host.cursor ≤ later.cursor)
    (away : ∀ other neighbour, other ≠ id → live other = some neighbour →
      (neighbour.span page).Disjoint span)
    (before : ∀ region, live id = some region → region.span page = span)
    (frame : ∀ n, n ∉ span → later.memory.perms? n = host.memory.perms? n)
    (owned : ∀ region, entry = some region → region.Owned page later ∧ region.span page = span)
    (inside : ∀ n perms, n ∈ span → later.memory.perms? n = some perms →
      (n + 1) * pageBytes ≤ mapBase + later.cursor ∧
        (entry.isSome ∨ ∃ region ∈ left, n ∈ region.span page))
    (kept : ∀ region ∈ abandoned, region ∈ left) :
    Sound page later (Function.update live id entry) left := by
  refine ⟨ready, pageSize, sound.power, ?_, ?_, ?_, ?_⟩
  · intro other neighbour held
    rcases held_update held with ⟨_, filled⟩ | ⟨different, held⟩
    · exact (owned neighbour filled).1
    · have old := sound.owned other neighbour held
      refine ⟨old.rounds, old.lies, fun n member => ?_⟩
      rw [frame n (away other neighbour different held n member)]
      exact old.mapped n member
  · refine sound.apart.update (fun _ _ disjoint => disjoint.symm) ?_
    intro other neighbour region different held filled
    rw [(owned region filled).2]
    exact away other neighbour different held
  · intro n perms found
    by_cases member : n ∈ span
    · exact (inside n perms member found).1
    · rw [frame n member] at found
      exact Nat.le_trans (sound.frontier n perms found) (Nat.add_le_add_left cursor _)
  · intro n perms found
    by_cases member : n ∈ span
    · rcases (inside n perms member found).2 with isSome | gone
      · obtain ⟨region, filled⟩ := Option.isSome_iff_exists.mp isSome
        refine .inl ⟨id, region, ?_, ?_⟩
        · rw [Function.update_self, filled]
        · rw [(owned region filled).2]
          exact member
      · exact .inr gone
    · rw [frame n member] at found
      rcases sound.covered n perms found with
        ⟨other, neighbour, held, within⟩ | ⟨gone, listed, within⟩
      · refine .inl ⟨other, neighbour, ?_, within⟩
        rw [Function.update_of_ne]
        · exact held
        · rintro rfl
          rw [before neighbour held] at within
          exact member within
      · exact .inr ⟨gone, kept gone listed, within⟩

/-- A fresh mapping becomes the pages of a new region. -/
theorem mapped {size : UInt64} (empty : live id = none)
    (rounds : mappingLength size page = .ok (some (mappedBytes size page)))
    (fits : Host.Addressable (mappedBytes size page))
    (below : (host.mapped (mappedBytes size page) .readWrite).BelowLimit) :
    Sound page (host.mapped (mappedBytes size page) .readWrite)
      (Function.update live id (some ⟨.ofNat (mapBase + host.cursor), size, .writable⟩))
      abandoned := by
  obtain ⟨lies, ready, ends⟩ := sound.ready.mapped fits below
  have next := sound.ready.toNat_next
  have spans : Span.ofRange (.ofNat (mapBase + host.cursor)) (mappedBytes size page) =
      Region.span ⟨.ofNat (mapBase + host.cursor), size, .writable⟩ page :=
    @Region.ofRange_eq ⟨.ofNat (mapBase + host.cursor), size, .writable⟩ page lies.toPageRange
  have bounds := lies.mem_ofRange_iff
  rw [spans, next] at bounds
  have perms : ∀ n, (host.mapped (mappedBytes size page) .readWrite).memory.perms? n =
      if n ∈ Region.span ⟨.ofNat (mapBase + host.cursor), size, .writable⟩ page
      then some .readWrite else host.memory.perms? n := by
    intro n
    rw [← spans]
    exact Memory.perms?_mapPages
  refine sound.changed (Region.span ⟨.ofNat (mapBase + host.cursor), size, .writable⟩ page) ready
    sound.pageSize (Nat.le_add_right _ _) ?_ ?_ ?_ ?_ ?_ fun _ listed => listed
  · -- everything mapped so far ends where the new region begins
    intro other neighbour _ held n member inside
    have mapped := sound.frontier n _ ((sound.owned other neighbour held).mapped n member)
    have := (bounds n).mp inside
    unfold pageBytes at *
    omega
  · intro region held
    rw [empty] at held
    cases held
  · intro n outside
    rw [perms, if_neg outside]
  · intro region filled
    cases filled
    refine ⟨⟨rounds, lies, fun n member => ?_⟩, rfl⟩
    rw [perms, if_pos member]
    rfl
  · intro n _ member _
    have := (bounds n).mp member
    refine ⟨?_, .inl rfl⟩
    omega

section Held

variable (held : live id = some region)
include held

theorem away (other : SlotId) (neighbour : Region) (different : other ≠ id)
    (heldOther : live other = some neighbour) :
    (neighbour.span page).Disjoint (region.span page) :=
  sound.apart other id neighbour region different heldOther held

omit sound in
theorem span_eq (same : Region) (heldSame : live id = some same) :
    same.span page = region.span page := by
  rw [held] at heldSame
  cases heldSame
  rfl

theorem span_mapped : ∀ n ∈ Span.ofRange region.base (mappedBytes region.size page),
    (host.memory.page? n).isSome := by
  intro n member
  have owned := sound.owned id region held
  rw [owned.ofRange_eq] at member
  exact Memory.isSome_page?_of_perms? (owned.mapped n member)

/-- The pages of a region change their permissions together with its state. -/
theorem reprotected :
    Sound page
      { host with memory :=
        host.memory.protectPages (.ofRange region.base (mappedBytes region.size page)) .readExec }
      (Function.update live id (some { region with state := .executable })) abandoned := by
  have owned := sound.owned id region held
  rw [owned.ofRange_eq]
  refine sound.changed (region.span page) (sound.ready.withMemory _) sound.pageSize (Nat.le_refl _)
    (sound.away held) (span_eq held) ?_ ?_ ?_ fun _ listed => listed
  · intro n outside
    exact Memory.perms?_protectPages.trans (if_neg outside)
  · intro changed filled
    cases filled
    refine ⟨⟨owned.rounds, owned.lies, fun n member => ?_⟩, rfl⟩
    change n ∈ region.span page at member
    refine Memory.perms?_protectPages.trans ?_
    rw [if_pos member, owned.mapped n member]
    rfl
  · intro n _ member _
    exact ⟨sound.frontier n _ (owned.mapped n member), .inl rfl⟩

/-- The pages of a region go when the region goes. -/
theorem unmapped :
    Sound page
      { host with memory :=
        host.memory.unmapPages (.ofRange region.base (mappedBytes region.size page)) }
      (Function.update live id none) abandoned := by
  have owned := sound.owned id region held
  rw [owned.ofRange_eq]
  refine sound.changed (region.span page) (sound.ready.withMemory _) sound.pageSize (Nat.le_refl _)
    (sound.away held) (span_eq held) ?_ ?_ ?_ fun _ listed => listed
  · intro n outside
    exact Memory.perms?_unmapPages.trans (if_neg outside)
  · intro region filled
    cases filled
  · intro n perms member found
    rw [Memory.perms?_unmapPages, if_pos member] at found
    cases found

/-- A region can go without its pages; they are abandoned then. -/
theorem abandon : Sound page host (Function.update live id none) (abandoned ++ [region]) := by
  have owned := sound.owned id region held
  refine sound.changed (region.span page) sound.ready sound.pageSize (Nat.le_refl _)
    (sound.away held) (span_eq held) (fun n _ => rfl) ?_ ?_ fun gone listed =>
      List.mem_append_left _ listed
  · intro region filled
    cases filled
  · intro n perms member found
    refine ⟨sound.frontier n perms found, .inr ⟨region, ?_, member⟩⟩
    exact List.mem_append_right _ List.mem_cons_self

end Held

/-! ## Host calls -/

variable {later : Host} {size length base value : UInt64} {errno : Errno} {reply : Reply}

/-- The length that a call computes is the one the invariant speaks about. -/
theorem length_eq (rounds : mappingLength size page = .ok (some length)) :
    length = mappedBytes size page :=
  (mappingLength_eq_some sound.power rounds).1

theorem call_map (empty : live id = none)
    (rounds : mappingLength size page = .ok (some length))
    (called : host.call (.map length .readWrite) = (.ok base, later)) (notNull : base ≠ 0)
    (below : later.BelowLimit) :
    Sound page later (Function.update live id (some ⟨base, size, .writable⟩)) abandoned := by
  have lengthEq := sound.length_eq rounds
  obtain ⟨rfl, fits, plans, taken, rfl⟩ := sound.ready.call_map called notNull
  subst lengthEq
  exact (sound.taken taken).mapped empty rounds fits below

theorem call_map_error (called : host.call (.map length .readWrite) = (.error errno, later)) :
    Sound page later live abandoned := by
  obtain ⟨fault, plans, taken, rfl, _⟩ := sound.ready.call_map_error called
  exact sound.taken taken

theorem call_map_null (called : host.call (.map length .readWrite) = (.ok 0, later)) :
    Sound page later live abandoned := by
  obtain ⟨plans, taken, rfl⟩ := sound.ready.call_map_null called
  exact sound.taken taken

variable (held : live id = some region)
include held

/-- What the host makes of a change of access to the pages of a live region. -/
theorem answers_protect (rounds : mappingLength region.size page = .ok (some length))
    (called : host.call (.protect region.base length .readExec) = (reply, later)) :
    Granted host .protect
      (host.memory.protectPages (.ofRange region.base (mappedBytes region.size page)) .readExec)
      reply later := by
  rw [sound.length_eq rounds] at called
  exact (sound.owned id region held).lies.call_protect sound.ready.plain (sound.span_mapped held)
    called

/-- What the host makes of the release of a live region. -/
theorem answers_unmap (rounds : mappingLength region.size page = .ok (some length))
    (called : host.call (.unmap region.base length) = (reply, later)) :
    Granted host .unmap
      (host.memory.unmapPages (.ofRange region.base (mappedBytes region.size page))) reply
      later := by
  rw [sound.length_eq rounds] at called
  exact (sound.owned id region held).lies.call_unmap sound.ready.plain called

theorem call_protect (rounds : mappingLength region.size page = .ok (some length))
    (called : host.call (.protect region.base length .readExec) = (.ok value, later)) :
    Sound page later (Function.update live id (some { region with state := .executable }))
      abandoned := by
  cases sound.answers_protect held rounds called with
  | granted taken => exact (sound.taken taken).reprotected held

theorem call_protect_error (rounds : mappingLength region.size page = .ok (some length))
    (called : host.call (.protect region.base length .readExec) = (.error errno, later)) :
    Sound page later live abandoned := by
  cases sound.answers_protect held rounds called with
  | refused taken => exact sound.taken taken

/-- The region is gone, and so are its pages unless the host refused to take them. -/
theorem call_unmap (rounds : mappingLength region.size page = .ok (some length))
    (called : host.call (.unmap region.base length) = (reply, later)) :
    Sound page later (Function.update live id none)
      (abandoned ++ if reply.isOk then [] else [region]) := by
  cases sound.answers_unmap held rounds called with
  | granted taken =>
      show Sound page _ _ (abandoned ++ [])
      rw [List.append_nil]
      exact (sound.taken taken).unmapped held
  | refused taken =>
      show Sound page _ _ (abandoned ++ [region])
      exact (sound.taken taken).abandon held

end Sound

/-! ## Abandoned regions -/

/-- The host was asked to take memory back and refused. -/
def SysCall.refusesUnmap : SysCall → Bool
  | ⟨.unmap .., .error _⟩ => true
  | _ => false

/-- The address of a fresh mapping. -/
def SysCall.newMapping? : SysCall → Option UInt64
  | ⟨.map .., .ok base⟩ => some base
  | _ => none

/-- The regions that a call ended although the host refused to take their memory back: the region of
the slot when it was freed or discarded, or the one that `ofCode` could not finish. -/
def RegionCall.abandons (slots : Slots) (id : SlotId) (calls : List SysCall) :
    RegionCall → List Region
  | .free | .discard => if calls.any SysCall.refusesUnmap then (slots.region? id).toList else []
  | .ofCode code =>
    if calls.any SysCall.refusesUnmap then
      (calls.filterMap SysCall.newMapping?).map fun base => .forCode base code
    else []
  | _ => []

/-- The regions that a step abandoned. -/
def Step.abandons (slots : Slots) (answer : Answer) : Step → List Region
  | .library (.region id call) _ => call.abandons slots id answer.calls
  | _ => []

/-- The regions that a script abandons on its way. -/
def Machine.abandoned (logging : Logging) (machine : Machine) : List Step → List Region
  | [] => []
  | step :: later =>
    step.abandons machine.slots (machine.step logging step).1 ++
      (machine.step logging step).2.abandoned logging later

/-! ## Steps and runs -/

/-- Every region that a slot holds has a rounding. -/
theorem Sound.sized {page : UInt64} {host : Host} {slots : Slots} {abandoned : List Region}
    (sound : Sound page host slots.region? abandoned) {id : SlotId} (region : Region)
    (held : slots.get? id = some (.region region)) :
    ∃ length, mappingLength region.size host.pageSize = .ok (some length) := by
  have owned := sound.owned id region (Slots.region?_eq_some_iff.mpr held)
  rw [sound.pageSize]
  exact ⟨_, owned.rounds⟩

/-- Where the host did not refuse to take memory back, nothing is abandoned. -/
theorem RegionCall.abandons_eq_nil {slots : Slots} {id : SlotId} {calls : List SysCall}
    (call : RegionCall) (taken : calls.any SysCall.refusesUnmap = false) :
    call.abandons slots id calls = [] := by
  cases call <;> simp [abandons, taken]

/-- The outcome of the release decides whether a region is abandoned. -/
theorem RegionCall.abandons_release {slots : Slots} {id : SlotId} {region : Region}
    {call : RegionCall} (held : slots.get? id = some (.region region))
    (ends : call = .free ∨ call = .discard)
    (length : UInt64) (reply : Reply) :
    call.abandons slots id [⟨.unmap region.base length, reply⟩] =
      if reply.isOk then [] else [region] := by
  have found := Slots.region?_eq_some_iff.mpr held
  rcases ends with rfl | rfl
  · cases reply <;> simp [abandons, SysCall.refusesUnmap, found, Except.isOk, Except.toBool]
  · cases reply <;> simp [abandons, SysCall.refusesUnmap, found, Except.isOk, Except.toBool]

/-- **A call on a region** keeps live regions and the page table in agreement. -/
theorem Turn.sound {page : UInt64} {host later : Host} {slots slots' : Slots} {id : SlotId}
    {call : RegionCall} {result : Except Halt Value} {calls : List SysCall}
    {abandoned : List Region} (turn : Turn host slots id call result calls later slots')
    (sound : Sound page host slots.region? abandoned) (below : later.BelowLimit) :
    Sound page later slots'.region? (abandoned ++ call.abandons slots id calls) := by
  obtain rfl := sound.pageSize
  -- a turn without a refused release abandons nothing
  have quiet : ∀ {later : Host} {live : SlotId → Option Region},
      calls.any SysCall.refusesUnmap = false → Sound host.pageSize later live abandoned →
      Sound host.pageSize later live (abandoned ++ call.abandons slots id calls) := by
    intro later live taken sound
    rw [call.abandons_eq_nil taken, List.append_nil]
    exact sound
  cases turn with
  | missing uses absent => exact quiet rfl sound
  | occupied creates held => exact quiet rfl sound
  | tooLarge creates empty overflows => exact quiet rfl sound
  | mapRefused creates empty rounds called => exact quiet rfl (sound.call_map_error called)
  | mapNull creates empty rounds called => exact quiet rfl (sound.call_map_null called)
  | allocated empty rounds called notNull =>
      rw [Slots.region?_insert]
      exact quiet rfl (sound.call_map (Slots.region?_of_none empty) rounds called notNull below)
  | compiled empty rounds called notNull fits written changed =>
      -- the limit is known of the last host, and needed of the one that mapped
      have before := below.of_call changed
      have mapped := sound.call_map (Slots.region?_of_none empty) rounds called notNull before
      have filled := mapped.withBytes (Memory.perms?_write? written)
      have finished := filled.call_protect (Function.update_self _ _ _) rounds changed
      rw [Function.update_idem] at finished
      rw [Slots.region?_insert]
      exact quiet rfl finished
  | @unprotected _ _ _ _ reply _ _ _ _ empty rounds called notNull fits written denied cleaned =>
      have absent := Slots.region?_of_none empty
      have before := (below.of_call cleaned).of_call denied
      have mapped := sound.call_map absent rounds called notNull before
      have filled := mapped.withBytes (Memory.perms?_write? written)
      have refused := filled.call_protect_error (Function.update_self _ _ _) rounds denied
      have gone := refused.call_unmap (Function.update_self _ _ _) rounds cleaned
      rw [update_undone absent] at gone
      cases reply <;> exact gone
  | @overlong _ _ _ reply _ _ empty rounds called notNull tooLong cleaned =>
      have absent := Slots.region?_of_none empty
      have mapped := sound.call_map absent rounds called notNull (below.of_call cleaned)
      have gone := mapped.call_unmap (Function.update_self _ _ _) rounds cleaned
      rw [update_undone absent] at gone
      cases reply <;> exact gone
  | unwritable empty rounds called notNull fits refused => exact quiet rfl sound
  | info held rounds => exact quiet rfl sound
  | read held => exact quiet rfl sound
  | called held => exact quiet rfl sound
  | locked changes held executable => exact quiet rfl sound
  | outside held writable outside => exact quiet rfl sound
  | written held writable inside written =>
      exact quiet rfl (sound.withBytes (Memory.perms?_write? written))
  | writeFault held writable inside refused => exact quiet rfl sound
  | filled held writable written =>
      exact quiet rfl (sound.withBytes (Memory.perms?_write? written))
  | fillFault held writable refused => exact quiet rfl sound
  | madeExecutable held writable rounds called =>
      rw [Slots.region?_insert]
      exact quiet rfl (sound.call_protect (Slots.region?_eq_some_iff.mpr held) rounds called)
  | notMadeExecutable held writable rounds called =>
      exact quiet rfl (sound.call_protect_error (Slots.region?_eq_some_iff.mpr held) rounds called)
  | freed held rounds called =>
      rw [Slots.region?_erase, RegionCall.abandons_release held (.inl rfl)]
      exact sound.call_unmap (Slots.region?_eq_some_iff.mpr held) rounds called
  | freeRefused held rounds called =>
      rw [Slots.region?_erase, RegionCall.abandons_release held (.inl rfl)]
      exact sound.call_unmap (Slots.region?_eq_some_iff.mpr held) rounds called
  | discarded held rounds called =>
      rw [Slots.region?_erase, RegionCall.abandons_release held (.inr rfl)]
      exact sound.call_unmap (Slots.region?_eq_some_iff.mpr held) rounds called

namespace Machine

/-- The machine before the first step, on a host that reports the given page size. -/
def fresh (page : UInt64) : Machine := ⟨{ Host.initial with pageSize := page }, .success, .empty⟩

end Machine

/-- A step that calls regions, looks at memory or pokes into it, or plans a fault that leaves
lengths alone. -/
def Step.regional : Step → Bool
  | .library (.region _ _) _ => true
  | .library _ _ => false
  | .host (.plan plan) => plan.fault.keepsLength
  | .host (.setPageSize _) => false
  | .host (.peek ..) | .host (.poke ..) | .host (.call ..) => true

namespace Machine

variable {page : UInt64} {machine : Machine} {abandoned : List Region}

theorem fresh_sound (power : page.toNat.isPowerOfTwo) :
    Sound page (fresh page).host (fresh page).slots.region? [] := by
  refine ⟨⟨?_, rfl, ?_⟩, rfl, power, ?_, ?_, ?_, ?_⟩
  · intro plan member
    cases member
  · show mapBase + 0 ≤ _
    decide
  · intro id region held
    cases held
  · intro id other region neighbour _ held
    cases held
  · intro n perms mapped
    cases mapped
  · intro n perms mapped
    cases mapped

/-- An action on the host keeps the agreement. -/
theorem hostTurn_sound {action : HostAction} {result : Except Halt Value} {later : Host}
    {live : SlotId → Option Region} (turn : HostTurn machine.host action result later)
    (regional : (Step.host action).regional = true)
    (sound : Sound page machine.host live abandoned) : Sound page later live abandoned := by
  cases turn with
  | planned plan =>
      refine sound.withPlans fun other member => ?_
      rcases List.mem_append.mp member with old | new
      · exact sound.ready.plain other old
      · cases List.mem_singleton.mp new
        exact regional
  | resized size => cases regional
  | peeked => exact sound
  | called => exact sound
  | poked written => exact sound.withBytes (Memory.perms?_write? written)
  | notPoked => exact sound

/-- **One step.** -/
theorem step_sound (logging : Logging) {step : Step} (regional : step.regional = true)
    (sound : Sound page machine.host machine.slots.region? abandoned)
    (below : (machine.step logging step).2.host.BelowLimit) :
    Sound page (machine.step logging step).2.host (machine.step logging step).2.slots.region?
      (abandoned ++ step.abandons machine.slots (machine.step logging step).1) := by
  cases step with
  | host action =>
      obtain ⟨result, host, steps, turn⟩ := hostStep_turn logging machine action
      rw [steps.host_eq, steps.slots_eq]
      show Sound _ _ _ (abandoned ++ [])
      rw [List.append_nil]
      exact hostTurn_sound turn regional sound
  | library call inThread =>
      cases call with
      | region id call =>
          have power := sound.power
          rw [← sound.pageSize] at power
          obtain ⟨result, calls, host, slots, steps, turn⟩ :=
            regionStep_turn logging machine id call inThread power sound.sized
          rw [steps.host_eq] at below ⊢
          rw [steps.slots_eq]
          unfold Step.abandons
          rw [steps.calls_eq]
          exact turn.sound sound below
      | _ => cases regional

/-- **Every script.** -/
theorem run_sound (logging : Logging) {steps : List Step}
    (regional : ∀ step ∈ steps, step.regional = true)
    (sound : Sound page machine.host machine.slots.region? abandoned)
    (below : (machine.run logging steps).2.host.BelowLimit) :
    Sound page (machine.run logging steps).2.host (machine.run logging steps).2.slots.region?
      (abandoned ++ machine.abandoned logging steps) := by
  induction steps generalizing machine abandoned with
  | nil =>
      show Sound _ _ _ (abandoned ++ [])
      rw [List.append_nil]
      exact sound
  | cons step later ih =>
      -- a mapping that is handed out now is still on record at the end
      have here := @Host.BelowLimit.of_run (machine.step logging step).2 logging later below
      have now := step_sound logging (regional step List.mem_cons_self) sound here
      have rest := ih (fun other member => regional other (List.mem_cons_of_mem _ member)) now below
      rw [List.append_assoc] at rest
      exact rest

end Machine

/-- **Regions own their pages.** After any script of region calls, pokes, peeks and planned
refusals, on a host that reports a power of two as its page size and hands out memory below the
address limit:

* every page of a live region is mapped, readable and writable while the region is writable,
  readable and executable once it is executable, and nothing else;
* different slots hold regions without a common page;
* every mapped page belongs to a live region, or to a region that was freed, discarded or could not
  be finished and whose memory the host refused to take back. -/
theorem regions_own_their_pages (logging : Logging) {page : UInt64}
    (power : page.toNat.isPowerOfTwo) {steps : List Step}
    (regional : ∀ step ∈ steps, step.regional = true)
    (below : ((Machine.fresh page).run logging steps).2.host.BelowLimit) :
    let final := ((Machine.fresh page).run logging steps).2
    (∀ id region, final.slots.get? id = some (.region region) →
      mappingLength region.size page = .ok (some (mappedBytes region.size page)) ∧
      region.base.toNat % pageBytes = 0 ∧
      ∀ n ∈ region.span page, ∃ content,
        final.host.memory.page? n = some ⟨region.state.perms, content⟩) ∧
    (∀ id other region neighbour, id ≠ other → final.slots.get? id = some (.region region) →
      final.slots.get? other = some (.region neighbour) →
      (region.span page).Disjoint (neighbour.span page)) ∧
    (∀ n content, final.host.memory.page? n = some content →
      (∃ id region, final.slots.get? id = some (.region region) ∧ n ∈ region.span page) ∨
      ∃ region ∈ (Machine.fresh page).abandoned logging steps, n ∈ region.span page) := by
  have sound := Machine.run_sound logging regional (Machine.fresh_sound power) below
  simp only [← Slots.region?_eq_some_iff]
  refine ⟨fun id region held => ?_, sound.apart, fun n content mapped => ?_⟩
  · have owned := sound.owned id region held
    refine ⟨owned.rounds, owned.lies.aligned, fun n member => ?_⟩
    obtain ⟨⟨perms, content⟩, mapped, rfl⟩ := Option.map_eq_some_iff.mp (owned.mapped n member)
    exact ⟨content, mapped⟩
  · exact sound.covered n content.perms (by rw [Memory.perms?, mapped, Option.map_some])

/-- A script that ends with an executable region and one whose release was refused. -/
def refusedRelease : List Step := [
  .host (.plan ⟨0, .refuse .unmap .invalidArgument⟩),
  .library (.region 0 (.allocate 5000)) false,
  .library (.region 1 (.ofCode [0xc3])) true,
  .library (.region 0 .makeExecutable) false,
  .library (.region 1 .free) false]

theorem regions_own_their_pages_refusedRelease :
    let final := ((Machine.fresh 16384).run .silent refusedRelease).2
    let region : Region := ⟨0x10000000000, 5000, .executable⟩
    final.slots.get? 0 = some (.region region) ∧
      (∀ n ∈ region.span 16384, ∃ content,
        final.host.memory.page? n = some ⟨.readExec, content⟩) ∧
      (Machine.fresh 16384).abandoned .silent refusedRelease =
        [⟨0x10000200000, 1, .executable⟩] ∧
      ∀ n content, final.host.memory.page? n = some content →
        (∃ id region, final.slots.get? id = some (.region region) ∧ n ∈ region.span 16384) ∨
        n ∈ Region.span ⟨0x10000200000, 1, .executable⟩ 16384 := by
  have held : ((Machine.fresh 16384).run .silent refusedRelease).2.slots.get? 0 =
      some (.region ⟨0x10000000000, 5000, .executable⟩) := by decide +kernel
  have gone : (Machine.fresh 16384).abandoned .silent refusedRelease =
      [⟨0x10000200000, 1, .executable⟩] := by decide +kernel
  have below : ((Machine.fresh 16384).run .silent refusedRelease).2.host.BelowLimit := by
    unfold Host.BelowLimit
    decide +kernel
  obtain ⟨owned, _, covered⟩ :=
    regions_own_their_pages .silent (by decide) (by decide) below
  refine ⟨held, (owned 0 _ held).2.2, gone, fun n content mapped => ?_⟩
  rcases covered n content mapped with live | ⟨region, listed, member⟩
  · exact .inl live
  · rw [gone] at listed
    cases List.mem_singleton.mp listed
    exact .inr member

end ExecMemory
