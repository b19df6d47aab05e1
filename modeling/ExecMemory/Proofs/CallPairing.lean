import ExecMemory.Proofs.Ownership
import Mathlib.Data.List.Induction

/-!
# Host calls come in pairs

The trace of host calls of a script is orderly: a change of access or a release is always about a
mapping that was made before and not released since, with the very address and length of that
mapping, although each operation computes the length anew. No mapping is released twice, also when
the host refused the first time, and what is not released is held by exactly one live region.

* `Open` says that a mapping was made and not released, `SysCall.Follows` that a call may come after
  a trace.
* `Ledger` ties the trace to the live regions; there is one lemma for each kind of call.
* `Turn.ledger` and `Machine.run_paired` follow it through calls on regions and through scripts.
-/

namespace ExecMemory

/-! ## Orderly traces -/

/-- A successful mapping; a null address is not one. -/
def SysCall.isMapping : SysCall → Bool
  | ⟨.map .., .ok address⟩ => address != 0
  | _ => false

theorem SysCall.exists_of_isMapping (call : SysCall) (mapping : call.isMapping = true) :
    ∃ length perms address, address ≠ 0 ∧ call = ⟨.map length perms, .ok address⟩ := by
  unfold isMapping at mapping
  split at mapping
  · exact ⟨_, _, _, bne_iff_ne.mp mapping, rfl⟩
  · cases mapping

/-- A release, whether or not the host granted it. -/
def SysCall.isUnmap : SysCall → Bool
  | ⟨.unmap .., _⟩ => true
  | _ => false

/-- A release of what lies at this address. -/
def SysCall.unmaps (address : UInt64) : SysCall → Bool
  | ⟨.unmap start _, _⟩ => start == address
  | _ => false

/-- A mapping was made at the address, with this length, and was not released. -/
structure Open (trace : List SysCall) (address length : UInt64) : Prop where
  made : ∃ perms, ⟨.map length perms, .ok address⟩ ∈ trace
  notNull : address ≠ 0
  notReleased : ∀ call ∈ trace, call.unmaps address = false

/-- The call may come after the calls `before`: fresh memory has an address of its own, and all
other calls are about an open mapping, as a whole. -/
def SysCall.Follows (before : List SysCall) : SysCall → Prop
  | ⟨.map .., .ok address⟩ =>
    address = 0 ∨ ∀ length perms, ⟨.map length perms, .ok address⟩ ∉ before
  | ⟨.map .., .error _⟩ => True
  | ⟨.protect address length _, _⟩ => Open before address length
  | ⟨.unmap address length, _⟩ => Open before address length

/-- Every call of the trace may come after those before it. -/
def Orderly (trace : List SysCall) : Prop :=
  ∀ before call after, trace = before ++ call :: after → call.Follows before

theorem orderly_nil : Orderly [] := by
  intro before call after split
  cases List.nil_eq_append_iff.mp split |>.2

theorem Orderly.snoc {trace : List SysCall} {call : SysCall} (orderly : Orderly trace)
    (follows : call.Follows trace) : Orderly (trace ++ [call]) := by
  intro before other after split
  rcases List.eq_nil_or_concat after with rfl | ⟨rest, last, rfl⟩
  · obtain ⟨rfl, last⟩ := List.append_inj' split rfl
    cases last
    exact follows
  · rw [List.concat_eq_append, ← List.cons_append, ← List.append_assoc] at split
    exact orderly before other rest (List.append_inj' split rfl).1

/-- A released address was mapped before. -/
theorem Orderly.made_of_unmaps {trace : List SysCall} {call : SysCall} {address : UInt64}
    (orderly : Orderly trace) (member : call ∈ trace) (released : call.unmaps address = true) :
    ∃ length perms, ⟨.map length perms, .ok address⟩ ∈ trace := by
  obtain ⟨before, after, rfl⟩ := List.append_of_mem member
  have follows := orderly before call after rfl
  obtain ⟨request, reply⟩ := call
  cases request with
  | unmap start length =>
      cases beq_iff_eq.mp released
      obtain ⟨perms, made⟩ := Open.made follows
      exact ⟨length, perms, List.mem_append_left _ made⟩
  | map => cases released
  | protect => cases released

/-- No address is released twice. -/
theorem Orderly.countP_unmaps_le (address : UInt64) {trace : List SysCall}
    (orderly : Orderly trace) :
    trace.countP (SysCall.unmaps address) ≤ 1 := by
  induction trace using List.reverseRecOn with
  | nil => exact Nat.zero_le _
  | append_singleton trace call ih =>
      have earlier : Orderly trace := fun before other after split =>
        orderly before other (after ++ [call]) (by rw [split, List.append_assoc, List.cons_append])
      rw [List.countP_append, List.countP_singleton]
      split
      · rename_i released
        have follows := orderly trace call [] rfl
        obtain ⟨request, reply⟩ := call
        cases request with
        | unmap start length =>
            cases beq_iff_eq.mp released
            have none : trace.countP (SysCall.unmaps address) = 0 := by
              rw [List.countP_eq_zero]
              intro other member
              rw [Open.notReleased follows other member]
              exact Bool.false_ne_true
            omega
        | map => cases released
        | protect => cases released
      · exact ih earlier

section Order

variable {trace before after : List SysCall} {call : SysCall}

/-- A call that is not for fresh memory is about a mapping made before, and about all of it. -/
theorem Orderly.made (orderly : Orderly trace) (split : trace = before ++ call :: after)
    (notMap : call.request.kind ≠ .map) :
    ∃ made ∈ before, made.isMapping = true ∧ made.request.length = call.request.length ∧
      made.reply = .ok call.request.address := by
  have follows := orderly before call after split
  obtain ⟨request, reply⟩ := call
  have mapping : ∀ address length, Open before address length →
      ∃ made ∈ before, made.isMapping = true ∧ made.request.length = length ∧
        made.reply = .ok address := by
    rintro address length ⟨⟨perms, made⟩, notNull, _⟩
    exact ⟨_, made, bne_iff_ne.mpr notNull, rfl, rfl⟩
  cases request with
  | map => exact absurd rfl notMap
  | protect address length perms => exact mapping address length follows
  | unmap address length => exact mapping address length follows

/-- After a release no call is about the released address. -/
theorem Orderly.address_ne (orderly : Orderly trace) (split : trace = before ++ call :: after)
    (release : call.request.kind = .unmap) {later : SysCall} (member : later ∈ after) :
    later.request.address ≠ call.request.address := by
  obtain ⟨between, rest, rfl⟩ := List.append_of_mem member
  have follows := orderly before call _ split
  rw [← List.cons_append, ← List.append_assoc] at split
  have laterFollows := orderly _ later rest split
  obtain ⟨request, reply⟩ := call
  obtain ⟨request', reply'⟩ := later
  cases request with
  | map => cases release
  | protect => cases release
  | unmap address length =>
      have reopened : ∀ {start size},
          Open (before ++ ⟨.unmap address length, reply⟩ :: between) start size →
          start ≠ address := by
        rintro start size opened rfl
        have kept := opened.notReleased _ (List.mem_append_right _ List.mem_cons_self)
        exact Bool.false_ne_true (kept.symm.trans (beq_self_eq_true start))
      cases request' with
      | map => exact (Open.notNull follows).symm
      | protect => exact reopened laterFollows
      | unmap => exact reopened laterFollows

/-- Every mapping has an address of its own. -/
theorem Orderly.reply_ne (orderly : Orderly trace) (split : trace = before ++ call :: after)
    (mapping : call.isMapping = true) {earlier : SysCall} (member : earlier ∈ before)
    (earlierMapping : earlier.isMapping = true) : earlier.reply ≠ call.reply := by
  have follows := orderly before call after split
  obtain ⟨_, _, address, notNull, rfl⟩ := call.exists_of_isMapping mapping
  obtain ⟨length, perms, other, _, rfl⟩ := earlier.exists_of_isMapping earlierMapping
  intro same
  cases same
  rcases follows with null | fresh
  · exact notNull null
  · exact fresh length perms member

end Order

theorem Open.snoc {trace : List SysCall} {address length : UInt64}
    (opened : Open trace address length) {call : SysCall} (stays : call.unmaps address = false) :
    Open (trace ++ [call]) address length := by
  obtain ⟨⟨perms, made⟩, notNull, notReleased⟩ := opened
  refine ⟨⟨perms, List.mem_append_left _ made⟩, notNull, fun other member => ?_⟩
  rcases List.mem_append.mp member with old | new
  · exact notReleased other old
  · rw [List.mem_singleton.mp new]
    exact stays

/-! ## The ledger -/

/-- A trace and the live regions agree: every live region holds an open mapping, different slots
hold different ones, and `count` mappings are open. All mappings lie before the cursor. -/
structure Ledger (page : UInt64) (cursor : Nat) (live : SlotId → Option Region) (count : Nat)
    (trace : List SysCall) : Prop where
  orderly : Orderly trace
  opened : ∀ id region, live id = some region →
    Open trace region.base (mappedBytes region.size page)
  distinct : Apart (fun region neighbour => region.base ≠ neighbour.base) live
  reached : ∀ address length perms, ⟨.map length perms, .ok address⟩ ∈ trace →
    address.toNat < mapBase + cursor
  counted : count + trace.countP SysCall.isUnmap = trace.countP SysCall.isMapping

namespace Ledger

variable {page : UInt64} {cursor later count : Nat} {live : SlotId → Option Region}
  {trace : List SysCall} {id : SlotId} {region : Region}

theorem moveCursor (ledger : Ledger page cursor live count trace) (le : cursor ≤ later) :
    Ledger page later live count trace where
  orderly := ledger.orderly
  opened := ledger.opened
  distinct := ledger.distinct
  reached address length perms made := by
    have := ledger.reached address length perms made
    omega
  counted := ledger.counted

/-- A mapping that was not made leaves only its call. -/
theorem notMapped (ledger : Ledger page cursor live count trace) (length : UInt64) (perms : Perms)
    {reply : Reply} (failed : SysCall.isMapping ⟨.map length perms, reply⟩ = false) :
    Ledger page cursor live count (trace ++ [⟨.map length perms, reply⟩]) where
  orderly := by
    refine ledger.orderly.snoc ?_
    cases reply with
    | error errno => trivial
    | ok address => exact .inl (bne_eq_false_iff_eq.mp failed)
  opened id region held := (ledger.opened id region held).snoc rfl
  distinct := ledger.distinct
  reached address length' perms' made := by
    rcases List.mem_append.mp made with old | new
    · exact ledger.reached address length' perms' old
    · cases List.mem_singleton.mp new
      rw [bne_eq_false_iff_eq.mp failed]
      exact Nat.zero_lt_of_lt (Nat.lt_add_right _ (by decide : 0 < mapBase))
  counted := by
    rw [List.countP_append, List.countP_append, List.countP_singleton, List.countP_singleton,
      failed]
    exact ledger.counted

/-- A new mapping lies behind all others and is held by a new region. -/
theorem mapped (ledger : Ledger page cursor live count trace) {base size : UInt64} (perms : Perms)
    (notNull : base ≠ 0) (next : base.toNat = mapBase + cursor) (moved : cursor < later) :
    Ledger page later (Function.update live id (some ⟨base, size, .writable⟩)) (count + 1)
      (trace ++ [⟨.map (mappedBytes size page) perms, .ok base⟩]) := by
  have fresh : ∀ length perms, ⟨.map length perms, .ok base⟩ ∉ trace := by
    intro length perms made
    have := ledger.reached base length perms made
    omega
  have unused : ∀ call ∈ trace, call.unmaps base = false := by
    intro call member
    apply Bool.eq_false_iff.mpr
    intro released
    -- a release would have needed an earlier mapping at this address
    obtain ⟨length, perms, made⟩ := ledger.orderly.made_of_unmaps member released
    exact fresh length perms made
  have different : ∀ other neighbour, live other = some neighbour → neighbour.base ≠ base := by
    intro other neighbour held same
    obtain ⟨perms, made⟩ := (ledger.opened other neighbour held).made
    rw [same] at made
    exact fresh _ perms made
  refine ⟨ledger.orderly.snoc (.inr fresh), ?_, ?_, ?_, ?_⟩
  · intro other neighbour held
    rcases held_update held with ⟨_, filled⟩ | ⟨_, held⟩
    · cases filled
      refine ⟨⟨perms, List.mem_append_right _ List.mem_cons_self⟩, notNull, fun call member => ?_⟩
      rcases List.mem_append.mp member with old | new
      · exact unused call old
      · rw [List.mem_singleton.mp new]
        rfl
    · exact (ledger.opened other neighbour held).snoc rfl
  · refine ledger.distinct.update (fun _ _ => Ne.symm) ?_
    intro other neighbour region _ held filled
    cases filled
    exact different other neighbour held
  · intro address length perms made
    rcases List.mem_append.mp made with old | new
    · have := ledger.reached address length perms old
      omega
    · cases List.mem_singleton.mp new
      omega
  · have counted := ledger.counted
    have isMapping : SysCall.isMapping ⟨.map (mappedBytes size page) perms, .ok base⟩ = true :=
      bne_iff_ne.mpr notNull
    rw [List.countP_append, List.countP_append, List.countP_singleton, List.countP_singleton,
      isMapping]
    show count + 1 + (trace.countP SysCall.isUnmap + 0) = trace.countP SysCall.isMapping + 1
    omega

/-- A change of access, granted or not, leaves the mapping open. The region may change its state. -/
theorem changed (ledger : Ledger page cursor live count trace) (held : live id = some region)
    (perms : Perms) (reply : Reply) :
    Ledger page cursor live count
      (trace ++ [⟨.protect region.base (mappedBytes region.size page) perms, reply⟩]) where
  orderly := ledger.orderly.snoc (ledger.opened id region held)
  opened other neighbour heldOther := (ledger.opened other neighbour heldOther).snoc rfl
  distinct := ledger.distinct
  reached address length perms made := by
    rcases List.mem_append.mp made with old | new
    · exact ledger.reached address length perms old
    · cases List.mem_singleton.mp new
  counted := by
    rw [List.countP_append, List.countP_append]
    exact ledger.counted

/-- A release, granted or not, closes the mapping, and no region holds it any more. -/
theorem released (ledger : Ledger page cursor live (count + 1) trace) (held : live id = some region)
    (reply : Reply) :
    Ledger page cursor (Function.update live id none) count
      (trace ++ [⟨.unmap region.base (mappedBytes region.size page), reply⟩]) := by
  refine ⟨ledger.orderly.snoc (ledger.opened id region held), ?_, ?_, ?_, ?_⟩
  · intro other neighbour heldOther
    rcases held_update heldOther with ⟨_, filled⟩ | ⟨different, heldOther⟩
    · cases filled
    · refine (ledger.opened other neighbour heldOther).snoc ?_
      exact beq_false_of_ne (ledger.distinct other id neighbour region different heldOther
        held).symm
  · refine ledger.distinct.update (fun _ _ => Ne.symm) ?_
    intro other neighbour region _ _ filled
    cases filled
  · intro address length perms made
    rcases List.mem_append.mp made with old | new
    · exact ledger.reached address length perms old
    · cases List.mem_singleton.mp new
  · have counted := ledger.counted
    rw [List.countP_append, List.countP_append]
    show count + (trace.countP SysCall.isUnmap + 1) = trace.countP SysCall.isMapping + 0
    omega

/-- The ledger speaks about addresses and sizes only, so a region may change its state. -/
theorem withState (ledger : Ledger page cursor live count trace) (held : live id = some region)
    (state : RegionState) :
    Ledger page cursor (Function.update live id (some { region with state })) count trace := by
  refine ⟨ledger.orderly, ?_, ?_, ledger.reached, ledger.counted⟩
  · intro other neighbour heldOther
    rcases held_update heldOther with ⟨_, filled⟩ | ⟨_, heldOther⟩
    · cases filled
      exact ledger.opened id region held
    · exact ledger.opened other neighbour heldOther
  · refine ledger.distinct.update (fun _ _ => Ne.symm) ?_
    intro other neighbour changed different heldOther filled
    cases filled
    exact ledger.distinct other id neighbour region different heldOther held

end Ledger

/-! ## The number of live regions -/

namespace Slots

variable {slots : Slots} {id : SlotId} {region : Region}

/-- No slot number occurs twice. -/
def Distinct (slots : Slots) : Prop := (slots.entries.map Prod.fst).Nodup

theorem Distinct.erase (distinct : slots.Distinct) (id : SlotId) : (slots.erase id).Distinct :=
  List.Nodup.sublist (List.filter_sublist.map _) distinct

theorem Distinct.insert (distinct : slots.Distinct) (id : SlotId) (slot : Slot) :
    (slots.insert id slot).Distinct := by
  refine List.nodup_cons.mpr ⟨?_, distinct.erase id⟩
  intro member
  obtain ⟨entry, kept, same⟩ := List.mem_map.mp member
  have other := (List.mem_filter.mp kept).2
  rw [same, bne_self_eq_false] at other
  cases other

/-- Erasing an empty slot changes nothing. -/
theorem erase_of_none (empty : slots.get? id = none) : slots.erase id = slots := by
  obtain ⟨entries⟩ := slots
  unfold erase
  congr 1
  apply List.filter_eq_self.mpr
  intro entry member
  have other := List.lookup_eq_none_iff.mp empty entry member
  rw [bne_comm]
  simpa using other

theorem regions_insert :
    (slots.insert id (.region region)).regions = region :: (slots.erase id).regions := rfl

theorem length_regions_erase (distinct : slots.Distinct)
    (held : slots.get? id = some (.region region)) :
    (slots.erase id).regions.length + 1 = slots.regions.length := by
  obtain ⟨entries⟩ := slots
  induction entries with
  | nil => cases held
  | cons entry rest ih =>
      obtain ⟨key, slot⟩ := entry
      obtain ⟨notAgain, restDistinct⟩ := List.nodup_cons.mp distinct
      by_cases here : key = id
      · subst here
        -- the slot number does not occur again, so erasing takes this entry only
        have absent : Slots.get? ⟨rest⟩ key = none := by
          apply List.lookup_eq_none_iff.mpr
          intro entry member
          apply bne_iff_ne.mpr
          intro same
          exact notAgain (List.mem_map.mpr ⟨entry, member, same.symm⟩)
        have found : slot = .region region := by
          simpa [get?] using held
        subst found
        have gone : Slots.erase ⟨(key, .region region) :: rest⟩ key = ⟨rest⟩ := by
          rw [← erase_of_none absent]
          simp [erase]
        rw [gone]
        rfl
      · have later : Slots.get? ⟨rest⟩ id = some (.region region) := by
          simpa [get?, List.lookup_cons, beq_false_of_ne (Ne.symm here)] using held
        have kept : Slots.erase ⟨(key, slot) :: rest⟩ id =
            ⟨(key, slot) :: (Slots.erase ⟨rest⟩ id).entries⟩ := by
          simp [erase, here]
        rw [kept]
        have := ih restDistinct later
        cases slot with
        | raw address => exact this
        | region other => exact congrArg (· + 1) this

end Slots

/-! ## Steps and runs -/

/-- A new mapping lies at the cursor, and the cursor moves on. -/
theorem Host.Ready.call_map_cursor {host later : Host} (ready : host.Ready) {length base : UInt64}
    {perms : Perms} (called : host.call (.map length perms) = (.ok base, later))
    (notNull : base ≠ 0) :
    base.toNat = mapBase + host.cursor ∧ host.cursor < later.cursor := by
  obtain ⟨rfl, _, plans, _, rfl⟩ := ready.call_map called notNull
  refine ⟨ready.toNat_next, ?_⟩
  show host.cursor < host.cursor + Host.stride length
  unfold Host.stride placement
  omega

section Turns

variable {page : UInt64} {host later : Host} {slots slots' : Slots} {id : SlotId}
  {call : RegionCall} {result : Except Halt Value} {calls trace : List SysCall}
  {abandoned : List Region}

theorem Turn.distinct (turn : Turn host slots id call result calls later slots')
    (distinct : slots.Distinct) : slots'.Distinct := by
  cases turn with
  | allocated => exact distinct.insert id _
  | compiled => exact distinct.insert id _
  | madeExecutable => exact distinct.insert id _
  | freed => exact distinct.erase id
  | freeRefused => exact distinct.erase id
  | discarded => exact distinct.erase id
  | _ => exact distinct

theorem length_regions_insert_new (empty : slots.get? id = none) (region : Region) :
    (slots.insert id (.region region)).regions.length = slots.regions.length + 1 := by
  rw [Slots.regions_insert, Slots.erase_of_none empty, List.length_cons]

/-- A fresh mapping goes into the ledger with the region it is for. -/
theorem Ledger.call_map {live : SlotId → Option Region} {count : Nat} {size length base : UInt64}
    (ledger : Ledger page host.cursor live count trace) (id : SlotId)
    (sound : Sound page host live abandoned)
    (rounds : mappingLength size page = .ok (some length))
    (called : host.call (.map length .readWrite) = (.ok base, later)) (notNull : base ≠ 0) :
    Ledger page later.cursor (Function.update live id (some ⟨base, size, .writable⟩)) (count + 1)
      (trace ++ [⟨.map length .readWrite, .ok base⟩]) := by
  obtain ⟨next, moved⟩ := sound.ready.call_map_cursor called notNull
  rw [sound.length_eq rounds]
  exact ledger.mapped .readWrite notNull next moved

/-- The region of a slot leaves the ledger when the slot is emptied and its memory released. -/
theorem Ledger.call_unmap {region : Region} {length : UInt64} {reply : Reply}
    (ledger : Ledger page host.cursor slots.region? slots.regions.length trace)
    (sound : Sound page host slots.region? abandoned) (distinct : slots.Distinct)
    (held : slots.get? id = some (.region region))
    (rounds : mappingLength region.size page = .ok (some length))
    (called : host.call (.unmap region.base length) = (reply, later)) :
    Ledger page later.cursor (slots.erase id).region? (slots.erase id).regions.length
      (trace ++ [⟨.unmap region.base length, reply⟩]) := by
  rw [← Slots.length_regions_erase distinct held] at ledger
  rw [Slots.region?_erase, sound.length_eq rounds]
  exact (ledger.released (Slots.region?_eq_some_iff.mpr held) reply).moveCursor
    (Host.call_extends called).cursor

/-- **A call on a region** keeps the ledger. -/
theorem Turn.ledger (turn : Turn host slots id call result calls later slots')
    (sound : Sound page host slots.region? abandoned) (distinct : slots.Distinct)
    (ledger : Ledger page host.cursor slots.region? slots.regions.length trace) :
    Ledger page later.cursor slots'.region? slots'.regions.length (trace ++ calls) := by
  obtain rfl := sound.pageSize
  -- most turns make no host call and change no slot
  have quiet : Ledger host.pageSize host.cursor slots.region? slots.regions.length
      (trace ++ []) := by
    rw [List.append_nil]
    exact ledger
  cases turn with
  | mapRefused creates empty rounds called =>
      exact (ledger.notMapped _ _ rfl).moveCursor (Host.call_extends called).cursor
  | mapNull creates empty rounds called =>
      exact (ledger.notMapped _ _ rfl).moveCursor (Host.call_extends called).cursor
  | allocated empty rounds called notNull =>
      rw [Slots.region?_insert, length_regions_insert_new empty]
      exact ledger.call_map id sound rounds called notNull
  | @compiled _ _ _ value _ _ _ empty rounds called notNull fits written changed =>
      have mapped := ledger.call_map id sound rounds called notNull
      cases sound.length_eq rounds
      have finished := (mapped.changed (Function.update_self _ _ _) .readExec (.ok value)).withState
        (Function.update_self _ _ _) .executable
      rw [Function.update_idem, List.append_assoc] at finished
      rw [Slots.region?_insert, length_regions_insert_new empty]
      have moved := (Host.call_extends changed).cursor
      exact finished.moveCursor moved
  | @unprotected _ _ _ errno reply _ _ _ _ empty rounds called notNull fits written denied
      cleaned =>
      have mapped := ledger.call_map id sound rounds called notNull
      cases sound.length_eq rounds
      have refused := mapped.changed (Function.update_self _ _ _) .readExec (.error errno)
      have released := refused.released (Function.update_self _ _ _) reply
      rw [update_undone (Slots.region?_of_none empty), List.append_assoc,
        List.append_assoc] at released
      have moved :=
        Nat.le_trans (Host.call_extends denied).cursor (Host.call_extends cleaned).cursor
      exact released.moveCursor moved
  | @overlong _ _ _ reply _ _ empty rounds called notNull tooLong cleaned =>
      have mapped := ledger.call_map id sound rounds called notNull
      cases sound.length_eq rounds
      have released := mapped.released (Function.update_self _ _ _) reply
      rw [update_undone (Slots.region?_of_none empty), List.append_assoc] at released
      exact released.moveCursor (Host.call_extends cleaned).cursor
  | @madeExecutable _ _ value _ held writable rounds called =>
      have found := Slots.region?_eq_some_iff.mpr held
      cases sound.length_eq rounds
      have finished := (ledger.changed found .readExec (.ok value)).withState found .executable
      rw [Slots.region?_insert, Slots.regions_insert, List.length_cons,
        Slots.length_regions_erase distinct held]
      exact finished.moveCursor (Host.call_extends called).cursor
  | @notMadeExecutable _ _ errno _ held writable rounds called =>
      have found := Slots.region?_eq_some_iff.mpr held
      cases sound.length_eq rounds
      exact (ledger.changed found .readExec (.error errno)).moveCursor
        (Host.call_extends called).cursor
  | freed held rounds called => exact ledger.call_unmap sound distinct held rounds called
  | freeRefused held rounds called => exact ledger.call_unmap sound distinct held rounds called
  | discarded held rounds called => exact ledger.call_unmap sound distinct held rounds called
  | _ => exact quiet

end Turns

namespace Machine

/-- The host calls of a script, in order. -/
def trace (logging : Logging) (machine : Machine) (steps : List Step) : List SysCall :=
  (machine.run logging steps).1.flatMap Answer.calls

/-- The trace so far and the slots of a machine agree. -/
structure Paired (page : UInt64) (machine : Machine) (trace : List SysCall) : Prop where
  distinct : machine.slots.Distinct
  ledger : Ledger page machine.host.cursor machine.slots.region? machine.slots.regions.length trace

variable {page : UInt64} {machine : Machine} {abandoned : List Region} {trace : List SysCall}

theorem fresh_paired : Paired page (fresh page) [] := by
  refine ⟨List.nodup_nil, orderly_nil, ?_, ?_, ?_, rfl⟩
  · intro id region held
    cases held
  · intro id other region neighbour _ held
    cases held
  · intro address length perms made
    cases made

theorem step_paired (logging : Logging) {step : Step} (regional : step.regional = true)
    (sound : Sound page machine.host machine.slots.region? abandoned)
    (paired : Paired page machine trace) :
    Paired page (machine.step logging step).2 (trace ++ (machine.step logging step).1.calls) := by
  cases step with
  | host action =>
      obtain ⟨result, host, steps, turn⟩ := hostStep_turn logging machine action
      have cursor : host.cursor = machine.host.cursor := by cases turn <;> rfl
      constructor
      · rw [steps.slots_eq]
        exact paired.distinct
      · rw [steps.host_eq, steps.slots_eq, steps.calls_eq, List.append_nil, cursor]
        exact paired.ledger
  | library call inThread =>
      cases call with
      | region id call =>
          have power := sound.power
          rw [← sound.pageSize] at power
          obtain ⟨result, calls, host, slots, steps, turn⟩ :=
            regionStep_turn logging machine id call inThread power sound.sized
          constructor
          · rw [steps.slots_eq]
            exact turn.distinct paired.distinct
          · rw [steps.host_eq, steps.slots_eq, steps.calls_eq]
            exact turn.ledger sound paired.distinct paired.ledger
      | _ => cases regional

/-- **Every script** keeps the trace and the slots in agreement. -/
theorem run_paired (logging : Logging) {steps : List Step}
    (regional : ∀ step ∈ steps, step.regional = true)
    (sound : Sound page machine.host machine.slots.region? abandoned)
    (below : (machine.run logging steps).2.host.BelowLimit) (paired : Paired page machine trace) :
    Paired page (machine.run logging steps).2 (trace ++ machine.trace logging steps) := by
  induction steps generalizing machine abandoned trace with
  | nil =>
      show Paired page machine (trace ++ [])
      rw [List.append_nil]
      exact paired
  | cons step later ih =>
      have regionalNow := regional step List.mem_cons_self
      have here := @Host.BelowLimit.of_run (machine.step logging step).2 logging later below
      have next := step_paired logging regionalNow sound paired
      have rest := ih (fun other member => regional other (List.mem_cons_of_mem _ member))
        (step_sound logging regionalNow sound here) below next
      rw [List.append_assoc] at rest
      exact rest

end Machine

/-- The size that a live region reports is the one with which its memory was mapped. -/
theorem info_result (logging : Logging) {machine : Machine} {id : SlotId} {region : Region}
    {length : UInt64} (inThread : Bool) (power : machine.host.pageSize.toNat.isPowerOfTwo)
    (held : machine.slots.get? id = some (.region region))
    (rounds : mappingLength region.size machine.host.pageSize = .ok (some length)) :
    (machine.step logging (.library (.region id .info) inThread)).1.result =
      .ok (.info region length) := by
  have sized : ∀ other, machine.slots.get? id = some (.region other) →
      ∃ length, mappingLength other.size machine.host.pageSize = .ok (some length) := by
    intro other found
    rw [held] at found
    cases found
    exact ⟨length, rounds⟩
  obtain ⟨result, calls, host, slots, steps, turn⟩ :=
    regionStep_turn logging machine id .info inThread power sized
  rw [steps.result_eq]
  cases turn with
  | info found rounded =>
      rw [held] at found
      cases found
      rw [rounds] at rounded
      cases rounded
      rfl
  | missing uses absent => exact absurd held (absent region)
  | occupied creates => cases creates
  | tooLarge creates => cases creates
  | mapRefused creates => cases creates
  | mapNull creates => cases creates
  | locked changes => cases changes

/-- **Host calls come in pairs.** In the trace of any script of region calls and planned refusals,
on a host that reports a power of two as its page size and hands out memory below the address limit:

* a change of access or a release has the address and the length of an earlier successful mapping;
* no two mappings have the same address; an address is released at most once, whatever the host
  replied, and no call is about it afterwards;
* the live regions are as many as the successful mappings less the releases;
* a live region reports the length with which its memory was mapped. -/
theorem host_calls_are_paired (logging : Logging) {page : UInt64}
    (power : page.toNat.isPowerOfTwo) {steps : List Step}
    (regional : ∀ step ∈ steps, step.regional = true)
    (below : ((Machine.fresh page).run logging steps).2.host.BelowLimit) :
    let final := ((Machine.fresh page).run logging steps).2
    let trace := (Machine.fresh page).trace logging steps
    (∀ before call after, trace = before ++ call :: after → call.request.kind ≠ .map →
      ∃ made ∈ before, made.isMapping = true ∧ made.request.length = call.request.length ∧
        made.reply = .ok call.request.address) ∧
    (∀ before call after, trace = before ++ call :: after → call.isMapping = true →
      ∀ earlier ∈ before, earlier.isMapping = true → earlier.reply ≠ call.reply) ∧
    (∀ address, trace.countP (SysCall.unmaps address) ≤ 1) ∧
    (∀ before call after, trace = before ++ call :: after → call.request.kind = .unmap →
      ∀ later ∈ after, later.request.address ≠ call.request.address) ∧
    final.slots.regions.length + trace.countP SysCall.isUnmap = trace.countP SysCall.isMapping ∧
    ∀ id region, final.slots.get? id = some (.region region) → ∃ length perms,
      ⟨.map length perms, .ok region.base⟩ ∈ trace ∧
      mappingLength region.size page = .ok (some length) ∧
      ∀ inThread, (final.step logging (.library (.region id .info) inThread)).1.result =
        .ok (.info region length) := by
  have start := Machine.fresh_sound power
  have sound := Machine.run_sound logging regional start below
  have ledger := (Machine.run_paired logging regional start below Machine.fresh_paired).ledger
  rw [List.nil_append] at ledger
  refine ⟨fun _ _ _ split => ledger.orderly.made split,
    fun _ _ _ split mapping _ member => ledger.orderly.reply_ne split mapping member,
    fun address => ledger.orderly.countP_unmaps_le address,
    fun _ _ _ split release _ member => ledger.orderly.address_ne split release member,
    ledger.counted, fun id region held => ?_⟩
  have found := Slots.region?_eq_some_iff.mpr held
  have rounds := (sound.owned id region found).rounds
  obtain ⟨perms, made⟩ := (ledger.opened id region found).made
  refine ⟨_, perms, made, rounds, fun inThread => ?_⟩
  rw [← sound.pageSize] at power rounds
  have answer := info_result logging inThread power held rounds
  rw [sound.pageSize] at answer
  exact answer

/-- A script whose second region cannot be made executable, and whose first release is refused. -/
def refusedFinish : List Step := [
  .library (.region 0 (.allocate 5000)) false,
  .host (.plan ⟨0, .refuse .protect .accessDenied⟩),
  .library (.region 1 (.ofCode [0xc3])) false,
  .host (.plan ⟨0, .refuse .unmap .invalidArgument⟩),
  .library (.region 0 .free) false,
  .library (.region 0 (.allocate 1)) true]

theorem host_calls_are_paired_refusedFinish :
    let final := ((Machine.fresh 4096).run .silent refusedFinish).2
    let trace := (Machine.fresh 4096).trace .silent refusedFinish
    trace.countP SysCall.isMapping = 3 ∧ trace.countP SysCall.isUnmap = 2 ∧
      final.slots.regions.length = 1 ∧
      (∀ before call after, trace = before ++ call :: after → call.request.kind ≠ .map →
        ∃ made ∈ before, made.isMapping = true ∧ made.request.length = call.request.length ∧
          made.reply = .ok call.request.address) ∧
      (final.step .silent (.library (.region 0 .info) false)).1.result =
        .ok (.info ⟨0x10000400000, 1, .writable⟩ 4096) := by
  have below : ((Machine.fresh 4096).run .silent refusedFinish).2.host.BelowLimit := by
    unfold Host.BelowLimit
    decide +kernel
  have maps : ((Machine.fresh 4096).trace .silent refusedFinish).countP SysCall.isMapping = 3 := by
    decide +kernel
  have unmaps : ((Machine.fresh 4096).trace .silent refusedFinish).countP SysCall.isUnmap = 2 := by
    decide +kernel
  have held : ((Machine.fresh 4096).run .silent refusedFinish).2.slots.get? 0 =
      some (.region ⟨0x10000400000, 1, .writable⟩) := by decide +kernel
  obtain ⟨made, _, _, _, counted, reports⟩ :=
    host_calls_are_paired .silent (by decide) (by decide) below
  rw [maps, unmaps] at counted
  obtain ⟨length, _, _, rounds, info⟩ := reports 0 _ held
  refine ⟨maps, unmaps, by omega, made, ?_⟩
  rw [show length = 4096 from ?_] at info
  · exact info false
  · have value : mappingLength 1 4096 = .ok (some 4096) := by decide
    rw [value] at rounds
    cases rounds
    rfl

end ExecMemory
