import ExecMemory.Proofs.Ownership
import ExecMemory.Proofs.RegionStore

/-!
# The contents of regions

Which bytes a region has in memory, and which of them an operation changes.

* `Holds` compares one region with a block of `RegionStore`, byte by byte.
* `Contents` compares all slots. Its frame lemmas say that mapping, unmapping and writing the memory
  of one region leave the bytes of the others as they were. This rests on `Sound`: the pages of live
  regions are disjoint, and a new region gets pages that nothing else has.
-/

namespace ExecMemory

/-! ## The bytes of memory -/

namespace Memory

variable {memory : Memory} {span : Span} {perms : Perms} {address : Nat}

theorem byte?_mapPages :
    (memory.mapPages span perms).byte? address =
      if address / pageBytes ∈ span then some 0 else memory.byte? address := by
  unfold byte?
  rw [page?_mapPages]
  split
  · rfl
  · rfl

theorem byte?_protectPages :
    (memory.protectPages span perms).byte? address = memory.byte? address := by
  unfold byte?
  rw [page?_protectPages]
  split
  · rw [Option.map_map]
    rfl
  · rfl

theorem byte?_unmapPages (outside : address / pageBytes ∉ span) :
    (memory.unmapPages span).byte? address = memory.byte? address := by
  unfold byte?
  rw [page?_unmapPages, if_neg outside]

/-- A write that succeeds changes the bytes of its range and no others. -/
theorem byte?_write? {start length : Nat} {content : Nat → UInt8} {written : Memory}
    (wrote : memory.write? start length content = some written) :
    written.byte? address = (memory.byte? address).map fun byte =>
      if start ≤ address ∧ address < start + length then content (address - start) else byte := by
  unfold Memory.write? at wrote
  split at wrote
  · cases wrote
    exact byte?_overwrite memory start length content address
  · cases wrote

end Memory

/-! ## Regions and blocks -/

/-- The region's bytes in memory are those of the block, and its state is the block's. -/
structure Holds (memory : Memory) (region : Region) (block : Block) : Prop where
  state : region.state = block.state
  size : region.size.toNat = block.bytes.length
  bytes : ∀ i, i < block.bytes.length →
    memory.byte? (region.base.toNat + i) = block.bytes[i]?

namespace Region.Owned

variable {region : Region} {page : UInt64} {host : Host} (owned : region.Owned page host)
include owned

/-- The bytes of a region lie on its pages. -/
theorem page_mem (power : page.toNat.isPowerOfTwo) {address : Nat}
    (low : region.base.toNat ≤ address)
    (high : address < region.base.toNat + region.size.toNat) :
    address / pageBytes ∈ region.span page := by
  have covers := (mappingLength_eq_some power owned.rounds).2
  rw [← owned.ofRange_eq]
  exact owned.lies.page_mem low (by omega)

/-- All bytes of a region are accessible in the way its state allows. -/
theorem permits (power : page.toNat.isPowerOfTwo) {ok : Perms → Bool}
    (allowed : ok region.state.perms = true) {start length : Nat}
    (inside : start + length ≤ region.size.toNat) :
    host.memory.permits ok (region.base.toNat + start) length = true := by
  rw [Memory.permits_eq_true_iff]
  intro address low high
  have member := owned.page_mem power (by omega : region.base.toNat ≤ address) (by omega)
  obtain ⟨found, mapped, perms⟩ := Option.map_eq_some_iff.mp (owned.mapped _ member)
  refine ⟨found, mapped, ?_⟩
  rw [perms]
  exact allowed

/-- A writable region can be written everywhere. -/
theorem write_isSome (power : page.toNat.isPowerOfTwo)
    (writable : region.state = .writable) {start length : Nat}
    (inside : start + length ≤ region.size.toNat) (content : Nat → UInt8) :
    (host.memory.write? (region.base.toNat + start) length content).isSome := by
  have allowed : region.state.perms.write = true := by rw [writable]; rfl
  unfold Memory.write?
  rw [if_pos (owned.permits power allowed inside)]
  rfl

end Region.Owned

theorem RegionState.readable_perms (state : RegionState) : state.perms.readable = true := by
  cases state <;> rfl

namespace Holds

variable {memory : Memory} {region : Region} {block : Block} (holds : Holds memory region block)
include holds

/-- Memory may change as long as the region's bytes do not. -/
theorem congr {later : Memory}
    (same : ∀ address, region.base.toNat ≤ address →
      address < region.base.toNat + region.size.toNat →
        later.byte? address = memory.byte? address) :
    Holds later region block := by
  refine ⟨holds.state, holds.size, fun i inside => ?_⟩
  have size := holds.size
  rw [same _ (Nat.le_add_right _ _) (by omega)]
  exact holds.bytes i inside

/-- Reading a range of the region gives that range of the block. -/
theorem load_eq {start length : Nat} (inside : start + length ≤ block.bytes.length) :
    memory.load (region.base.toNat + start) length = (block.bytes.drop start).take length := by
  apply List.ext_getElem?
  intro i
  unfold Memory.load
  rw [List.getElem?_map, List.getElem?_take, List.getElem?_drop]
  by_cases low : i < length
  · rw [List.getElem?_range low, if_pos low, Option.map_some, Nat.add_assoc,
      holds.bytes (start + i) (by omega)]
    rw [List.getElem?_eq_getElem (by omega : start + i < block.bytes.length), Option.getD_some]
  · rw [if_neg low, List.getElem?_eq_none (by simp; omega), Option.map_none]

/-- After a write within the region, the bytes of the block in the written range are the new
ones. -/
theorem written {start length : Nat} {content : Nat → UInt8} {later : Memory} {bytes : List UInt8}
    (wrote : memory.write? (region.base.toNat + start) length content = some later)
    (sameLength : bytes.length = block.bytes.length)
    (changed : ∀ i (inside : i < block.bytes.length), bytes[i]? =
      some (if start ≤ i ∧ i < start + length then content (i - start) else block.bytes[i])) :
    Holds later region { block with bytes } := by
  refine ⟨holds.state, holds.size.trans sameLength.symm, fun i inside => ?_⟩
  have old : i < block.bytes.length := by
    rw [← sameLength]
    exact inside
  rw [Memory.byte?_write? wrote, holds.bytes i old, List.getElem?_eq_getElem old, Option.map_some]
  refine Eq.trans ?_ (changed i old).symm
  have range : (region.base.toNat + start ≤ region.base.toNat + i ∧
      region.base.toNat + i < region.base.toNat + start + length) ↔
      (start ≤ i ∧ i < start + length) := by omega
  simp only [range, Nat.add_sub_add_left]

theorem splice {offset : Nat} {bytes : List UInt8} {later : Memory}
    (wrote : memory.write? (region.base.toNat + offset) bytes.length (byteAt bytes) = some later)
    (inside : offset + bytes.length ≤ block.bytes.length) :
    Holds later region (block.splice offset bytes) := by
  refine holds.written wrote ?_ ?_
  · rw [List.length_append, List.length_append, List.length_take, List.length_drop]
    omega
  · intro i old
    have taken : (block.bytes.take offset).length = offset := by
      rw [List.length_take]
      omega
    -- before, within and behind the written range
    by_cases before : i < offset
    · rw [if_neg (by omega), List.append_assoc, List.getElem?_append_left (by omega),
        List.getElem?_take_of_lt before, List.getElem?_eq_getElem old]
    · by_cases within : i < offset + bytes.length
      · rw [if_pos ⟨by omega, within⟩,
          List.getElem?_append_left (by rw [List.length_append]; omega),
          List.getElem?_append_right (by omega), taken,
          List.getElem?_eq_getElem (by omega : i - offset < bytes.length)]
        simp [byteAt, (by omega : i - offset < bytes.length)]
      · rw [if_neg (by omega), List.getElem?_append_right (by rw [List.length_append]; omega),
          List.length_append, taken, List.getElem?_drop, List.getElem?_eq_getElem (by omega)]
        congr 2
        omega

theorem fill {byte : UInt8} {later : Memory}
    (wrote : memory.write? region.base.toNat region.size.toNat (fun _ => byte) = some later) :
    Holds later region (block.fill byte) := by
  rw [holds.size] at wrote
  refine @written _ _ _ holds 0 _ _ _ _ wrote ?_ ?_
  · rw [List.length_replicate]
  · intro i old
    rw [if_pos ⟨Nat.zero_le i, by omega⟩, List.getElem?_replicate, if_pos old]

end Holds

/-! ## The contents of all slots -/

/-- Every slot holds a region and a block that agree, or neither. -/
def Contents (memory : Memory) (live : SlotId → Option Region) (blocks : SlotId → Option Block) :
    Prop :=
  ∀ id, Option.Rel (Holds memory) (live id) (blocks id)

namespace Contents

variable {memory : Memory} {live : SlotId → Option Region} {blocks : SlotId → Option Block}
  {id : SlotId} {region : Region} (contents : Contents memory live blocks)
include contents

theorem held (held : live id = some region) :
    ∃ block, blocks id = some block ∧ Holds memory region block := by
  have related := contents id
  rw [held] at related
  generalize blocks id = found at related
  cases related with
  | some holds => exact ⟨_, rfl, holds⟩

theorem absent (empty : live id = none) : blocks id = none := by
  have related := contents id
  rw [empty] at related
  generalize blocks id = found at related
  cases related with
  | none => rfl

/-- One slot changes; the bytes of the regions in the other slots do not. -/
theorem update {later : Memory} {entry : Option Region} {block : Option Block}
    (same : ∀ other neighbour, other ≠ id → live other = some neighbour →
      ∀ address, neighbour.base.toNat ≤ address →
        address < neighbour.base.toNat + neighbour.size.toNat →
        later.byte? address = memory.byte? address)
    (changed : Option.Rel (Holds later) entry block) :
    Contents later (Function.update live id entry) (Function.update blocks id block) := by
  intro other
  by_cases isChanged : other = id
  · subst isChanged
    rw [Function.update_self, Function.update_self]
    exact changed
  · rw [Function.update_of_ne isChanged, Function.update_of_ne isChanged]
    cases held : live other with
    | none =>
        rw [contents.absent held]
        exact .none
    | some neighbour =>
        obtain ⟨block, found, holds⟩ := contents.held held
        rw [found]
        exact .some (holds.congr (same other neighbour isChanged held))

theorem erase : Contents memory (Function.update live id none) (Function.update blocks id none) :=
  contents.update (fun _ _ _ _ _ _ _ => rfl) .none

theorem reprotect {span : Span} {perms : Perms} {block : Block}
    (holds : Holds memory region block) (state : RegionState) :
    Contents (memory.protectPages span perms)
      (Function.update live id (some { region with state }))
      (Function.update blocks id (some { block with state })) := by
  refine contents.update (fun _ _ _ _ _ _ _ => Memory.byte?_protectPages)
    (.some ⟨rfl, holds.size, ?_⟩)
  intro i inside
  rw [Memory.byte?_protectPages]
  exact holds.bytes i inside

end Contents

section Frame

variable {page : UInt64} {host : Host} {live : SlotId → Option Region}
  {blocks : SlotId → Option Block} {abandoned : List Region} {id : SlotId} {region : Region}
  (sound : Sound page host live abandoned) (contents : Contents host.memory live blocks)
include sound contents

/-- A new region is all zeros, and its pages were nobody's before. -/
theorem Contents.map {size : UInt64}
    (rounds : mappingLength size page = .ok (some (mappedBytes size page)))
    (fits : Host.Addressable (mappedBytes size page)) :
    Contents (host.mapped (mappedBytes size page) .readWrite).memory
      (Function.update live id (some ⟨.ofNat (mapBase + host.cursor), size, .writable⟩))
      (Function.update blocks id (some ⟨.replicate size.toNat 0, .writable⟩)) := by
  have range := sound.ready.pageRange fits
  have next := sound.ready.toNat_next
  have covers := (mappingLength_eq_some sound.power rounds).2
  refine contents.update ?_ (.some ⟨rfl, ?_, ?_⟩)
  · intro other neighbour _ held address low high
    have owned := sound.owned other neighbour held
    have bound := sound.frontier _ _ (owned.mapped _ (owned.page_mem sound.power low high))
    refine Memory.byte?_mapPages.trans (if_neg ?_)
    rw [range.mem_ofRange_iff, next]
    unfold pageBytes at *
    omega
  · rw [List.length_replicate]
  · intro i inside
    rw [List.length_replicate] at inside
    refine Memory.byte?_mapPages.trans ?_
    rw [if_pos (range.page_mem (Nat.le_add_right _ _) ?_), List.getElem?_replicate, if_pos inside]
    show _ + i < _
    omega

variable (held : live id = some region)
include held

omit contents in
/-- Bytes on the pages of one region are bytes of no other. -/
theorem Sound.other_page {other : SlotId} {neighbour : Region} (different : other ≠ id)
    (heldOther : live other = some neighbour) {address : Nat} (low : neighbour.base.toNat ≤ address)
    (high : address < neighbour.base.toNat + neighbour.size.toNat) :
    address / pageBytes ∉ region.span page :=
  sound.apart other id neighbour region different heldOther held _
    ((sound.owned other neighbour heldOther).page_mem sound.power low high)

theorem Contents.unmap :
    Contents (host.memory.unmapPages (.ofRange region.base (mappedBytes region.size page)))
      (Function.update live id none) (Function.update blocks id none) := by
  refine contents.update ?_ .none
  intro other neighbour different heldOther address low high
  apply Memory.byte?_unmapPages
  rw [(sound.owned id region held).ofRange_eq]
  exact sound.other_page held different heldOther low high

/-- A write within a region reaches no other region. -/
theorem Contents.write {start length : Nat} {content : Nat → UInt8} {written : Memory}
    {block : Block} (wrote : host.memory.write? (region.base.toNat + start) length content =
      some written)
    (inside : start + length ≤ region.size.toNat) (holds : Holds written region block) :
    Contents written live (Function.update blocks id (some block)) := by
  have changed : Contents written (Function.update live id (some region))
      (Function.update blocks id (some block)) := by
    refine contents.update ?_ (.some holds)
    intro other neighbour different heldOther address low high
    have outside := sound.other_page held different heldOther low high
    have away : ¬ (region.base.toNat + start ≤ address ∧
        address < region.base.toNat + start + length) := by
      intro within
      exact outside ((sound.owned id region held).page_mem sound.power (by omega) (by omega))
    rw [Memory.byte?_write? wrote]
    simp only [if_neg away, Option.map_id']
  rw [← held, Function.update_eq_self] at changed
  exact changed

end Frame

end ExecMemory
