import ExecMemory.Proofs.HostReplies
import Mathlib.Logic.Function.Basic

/-!
# The region store

What regions are for, without addresses, pages and permissions: each slot in use holds a list of
bytes and a state, and an operation acts on one slot. The only trace of the host is that it can
refuse what it is asked for, as planned; a refusal leaves the contents of the store as they were,
except that a region that is freed or discarded is gone all the same.

`StoreRefinement` shows that regions over paged memory behave like this store.
-/

namespace ExecMemory

/-- What a slot holds: its bytes, exactly as many as were asked for, and a state. -/
structure Block where
  bytes : List UInt8
  state : RegionState

/-- The blocks by their slots, and the refusals to come. -/
structure Store where
  block? : SlotId → Option Block
  plans : List Plan

/-- What can be seen of a step of the store. -/
inductive Outcome where
  | created
  | done
  | filled (size : Nat)
  | bytes (bytes : List UInt8)
  | info (size : Nat) (state : RegionState)
  | failed (error : Error)
  /-- The host answered with a null address; which error number is reported is left open. -/
  | nullMapping
  | panicked
  | noSuchSlot
  | slotInUse
  /-- The step is none of the store's. -/
  | outside

namespace Block

/-- Replaces bytes from an offset on. -/
def splice (block : Block) (offset : Nat) (bytes : List UInt8) : Block :=
  { block with
    bytes := block.bytes.take offset ++ bytes ++ block.bytes.drop (offset + bytes.length) }

/-- Sets every byte. -/
def fill (block : Block) (byte : UInt8) : Block :=
  { block with bytes := .replicate block.bytes.length byte }

/-- The bytes of a range that is in order and inside the block. -/
def read (block : Block) (start stop : Nat) : Outcome :=
  if start ≤ stop ∧ stop ≤ block.bytes.length then
    .bytes ((block.bytes.drop start).take (stop - start))
  else .panicked

end Block

namespace Store

/-- Nothing is stored and nothing planned. -/
def empty : Store := ⟨fun _ => none, []⟩

/-- Changes what a slot holds. -/
def set (store : Store) (id : SlotId) (block : Option Block) : Store :=
  { store with block? := Function.update store.block? id block }

/-- Asks the host for something: why it failed, if it did. -/
def ask (store : Store) (kind : CallKind) : Option Outcome × Store :=
  match Plan.take kind store.plans with
  | (some (.refuse _ errno), plans) =>
    (some (.failed (Mapping.classify kind errno)), { store with plans })
  | (some .null, plans) => (some .nullMapping, { store with plans })
  | (_, plans) => (none, { store with plans })

/-- Asks for memory for `size` bytes. It fails if there is no multiple of the page size to round to,
if the host refuses, or if there are not that many addresses. -/
def askMemory (page : UInt64) (store : Store) (size : UInt64) : Option Outcome × Store :=
  if leastMultiple size.toNat page.toNat < UInt64.size then
    match store.ask .map with
    | (some failure, later) => (some failure, later)
    | (none, later) =>
      if Host.Addressable (mappedBytes size page) then (none, later)
      else (some (.failed (.outOfMemory .outOfMemory)), later)
  else (some (.failed .tooLarge), store)

/-- Goes on if the host granted what it was asked for. -/
def onGrant (asked : Option Outcome × Store) (next : Store → Outcome × Store) : Outcome × Store :=
  match asked with
  | (some failure, later) => (failure, later)
  | (none, later) => next later

/-- Uses an empty slot. -/
def vacant (store : Store) (id : SlotId) (next : Outcome × Store) : Outcome × Store :=
  match store.block? id with
  | some _ => (.slotInUse, store)
  | none => next

/-- Uses what a slot holds. -/
def holding (store : Store) (id : SlotId) (next : Block → Outcome × Store) : Outcome × Store :=
  match store.block? id with
  | some block => next block
  | none => (.noSuchSlot, store)

/-- Uses what a slot holds if it is writable. -/
def writing (store : Store) (id : SlotId) (next : Block → Outcome × Store) : Outcome × Store :=
  store.holding id fun block =>
    match block.state with
    | .writable => next block
    | .executable => (.failed .invalidState, store)

/-- An operation on one slot. -/
def call (page : UInt64) (store : Store) (id : SlotId) : RegionCall → Outcome × Store
  | .allocate size =>
    store.vacant id <|
      onGrant (store.askMemory page size) fun later =>
        (.created, later.set id (some ⟨.replicate size.toNat 0, .writable⟩))
  | .ofCode code =>
    store.vacant id <|
      onGrant (store.askMemory page (.ofNat code.length)) fun later =>
        match later.ask .protect with
        | (some failure, refused) => (failure, (refused.ask .unmap).2)
        | (none, later) => (.created, later.set id (some ⟨code, .executable⟩))
  | .info => store.holding id fun block => (.info block.bytes.length block.state, store)
  | .read start stop =>
    store.holding id fun block =>
      (block.read start.toNat ((stop.map UInt64.toNat).getD block.bytes.length), store)
  | .write offset bytes =>
    store.writing id fun block =>
      if offset.toNat + bytes.length ≤ block.bytes.length then
        (.done, store.set id (some (block.splice offset.toNat bytes)))
      else (.failed .invalidArgument, store)
  | .fill byte =>
    store.writing id fun block =>
      (.filled block.bytes.length, store.set id (some (block.fill byte)))
  | .makeExecutable =>
    store.writing id fun block =>
      onGrant (store.ask .protect) fun later =>
        (.done, later.set id (some { block with state := .executable }))
  | .free =>
    store.holding id fun _ =>
      let (failure, later) := store.ask .unmap
      (failure.getD .done, later.set id none)
  | .discard => store.holding id fun _ => (.done, (store.ask .unmap).2.set id none)
  | .call .. => (.outside, store)

/-- One step: an operation on a slot, in whatever thread, or a new plan. -/
def step (page : UInt64) (store : Store) : Step → Outcome × Store
  | .library (.region id call) _ => store.call page id call
  | .host (.plan plan) => (.done, { store with plans := store.plans ++ [plan] })
  | _ => (.outside, store)

/-- Steps one after the other: their outcomes, and the store they leave. -/
def run (page : UInt64) (store : Store) : List Step → List Outcome × Store
  | [] => ([], store)
  | step :: later =>
    let (outcome, next) := store.step page step
    let (outcomes, last) := next.run page later
    (outcome :: outcomes, last)

end Store

/-- A step of the store: an operation on a slot other than running its code, or a plan that leaves
lengths alone. A piece of code is never longer than a word can say. -/
def Step.storable : Step → Bool
  | .library (.region _ (.ofCode code)) _ => code.length < UInt64.size
  | .library (.region _ (.call ..)) _ => false
  | .library (.region _ _) _ => true
  | .host (.plan plan) => plan.fault.keepsLength
  | _ => false

end ExecMemory
