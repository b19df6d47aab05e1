import ExecMemory.Proofs.HostReplies
import ExecMemory.Proofs.Turns
import Mathlib.Data.List.Forall2

/-!
# Logging and the last error do not interfere

The thread's last error is one cell. The logger may overwrite it, a new thread starts with an empty
one, and the library reads it back when it builds an error. Still nothing of this shows in what the
library does: whenever it reads the cell, a refused host call has just written it.

This is a statement about two runs, so everything here is about two.

* `Effect.Blind` says that a computation, run side by side under two loggings from related states,
  gives the same result and leaves related states. It is put together along `bind`.
* `Alike` relates two contexts that differ only in the last error and in which records the log
  keeps.
* The one place that reads the last error is `Mapping.refused`. It is blind where the last errors
  are equal (`blind_refused`), and that is so after a refused call (`blind_sysCall`). The other way
  to get there is a null address, which a host that is not told to never gives
  (`Host.call_map_ne_null`).
* `Machine.step_agrees` and `Machine.run_agrees` take this to steps and to scripts.
-/

namespace ExecMemory

/-! ## Two runs of a computation -/

/-- Run under two loggings from states related by `P`, the computation gives the same result and
leaves states related by `R`. -/
def Effect.Blind {S ε α : Type} (one two : Logging) (P R : S → S → Prop) (effect : Effect S ε α) :
    Prop :=
  ∀ s t, P s t → (effect.exec one s).1 = (effect.exec two t).1 ∧
    R (effect.exec one s).2 (effect.exec two t).2

section Blind

variable {S ε α β : Type} {one two : Logging} {P R : S → S → Prop}

theorem blind_pure (value : α) : Effect.Blind one two R R (pure value : Effect S ε α) :=
  fun _ _ related => ⟨rfl, related⟩

theorem blind_throw (reason : ε) : Effect.Blind one two R R (throw reason : Effect S ε α) :=
  fun _ _ related => ⟨rfl, related⟩

theorem blind_modify {f : S → S} (related : ∀ s t, P s t → R (f s) (f t)) :
    Effect.Blind one two P R (modify f : Effect S ε PUnit) :=
  fun s t before => ⟨rfl, related s t before⟩

/-- The second part gets the same value in both runs and goes on from related states. Where the
first part stops, so does the whole. -/
theorem blind_bind {effect : Effect S ε α} {next : α → Effect S ε β}
    (first : effect.Blind one two P R) (second : ∀ value, (next value).Blind one two R R) :
    Effect.Blind one two P R (effect >>= next) := by
  intro s t related
  obtain ⟨same, between⟩ := first s t related
  rw [Effect.exec_bind, Effect.exec_bind]
  rcases ranOne : effect.exec one s with ⟨result, s'⟩
  rcases ranTwo : effect.exec two t with ⟨result', t'⟩
  rw [ranOne, ranTwo] at same between
  cases same
  cases result with
  | error reason => exact ⟨rfl, between⟩
  | ok value => exact second value s' t' between

end Blind

/-! ## Two logs -/

/-- Both logs keep, each by its own level, the records of one log. -/
def SameLog (one two : Logging) (records others : List Record) : Prop :=
  ∃ full : List Record, records = full.filter (fun record => one.shows record.level) ∧
    others = full.filter (fun record => two.shows record.level)

namespace SameLog

variable {one two : Logging} {records others : List Record}

theorem nil : SameLog one two [] [] := ⟨[], rfl, rfl⟩

/-- One more record, if it is shown. -/
theorem emit (same : SameLog one two records others) (record : Record) :
    SameLog one two (if one.shows record.level then records ++ [record] else records)
      (if two.shows record.level then others ++ [record] else others) := by
  obtain ⟨full, rfl, rfl⟩ := same
  refine ⟨full ++ [record], ?_, ?_⟩
  · by_cases shown : one.shows record.level = true <;> simp [shown]
  · by_cases shown : two.shows record.level = true <;> simp [shown]

/-- Beside a log of everything, the other one keeps the records that are severe enough. -/
theorem eq_filter {level : Level} (same : SameLog one two records others)
    (all : two.maxLevel = some .trace) (limit : one.maxLevel = some level) :
    records = others.filter fun record => record.level.rank ≤ level.rank := by
  obtain ⟨full, rfl, rfl⟩ := same
  simp [Logging.shows_of_trace all, Logging.shows_of_maxLevel limit]

/-- A log that is switched off keeps nothing. -/
theorem eq_nil (same : SameLog one two records others) (off : one.maxLevel = none) :
    records = [] := by
  obtain ⟨full, rfl, rfl⟩ := same
  simp [Logging.shows_of_off off]

end SameLog

/-! ## Hosts that give no null address -/

namespace Host

/-- No planned fault answers a request for memory with null. -/
def NeverNull (host : Host) : Prop := ∀ plan ∈ host.plans, plan.fault ≠ .null

theorem plans_serve (host : Host) (request : Request) :
    (host.serve request).2.plans = host.plans := by
  cases request with
  | map length perms =>
      show (host.map length perms).2.plans = _
      unfold Host.map
      split <;> rfl
  | protect address length perms =>
      show (host.protect address length perms).2.plans = _
      unfold Host.protect
      split
      · split <;> rfl
      · rfl
  | unmap address length =>
      show (host.unmap address length).2.plans = _
      unfold Host.unmap
      split <;> rfl

/-- A call uses up the plan that it meets and no other. -/
theorem plans_call (host : Host) (request : Request) :
    (host.call request).2.plans = (Plan.take request.kind host.plans).2 := by
  unfold Host.call
  rcases Plan.take request.kind host.plans with ⟨fault, plans⟩
  rcases fault with _ | (_ | length | _)
  · exact plans_serve { host with plans } request
  · rfl
  · exact plans_serve { host with plans } (request.withLength length)
  · rfl

theorem NeverNull.call {host : Host} (never : host.NeverNull) (request : Request) :
    (host.call request).2.NeverNull := by
  unfold NeverNull
  rw [plans_call]
  exact (@Plan.take_faults (fun fault => fault ≠ .null) request.kind _ never).2

/-- Whatever else is planned, a mapping that succeeds has an address. -/
theorem call_map_ne_null {host : Host} (never : host.NeverNull) {length value : UInt64}
    {perms : Perms} (answered : (host.call (.map length perms)).1 = .ok value) : value ≠ 0 := by
  have noNull := (@Plan.take_faults (fun fault => fault ≠ .null) .map _ never).1
  rcases taken : Plan.take .map host.plans with ⟨fault, plans⟩
  rw [taken] at noNull
  unfold Host.call Request.kind at answered
  rw [taken] at answered
  rcases fault with _ | (_ | resized | _)
  · exact map_ne_null answered
  · cases answered
  · exact map_ne_null answered
  · exact absurd rfl (noNull .null rfl)

end Host

/-! ## Operations -/

/-- Two contexts that differ only in the last error and in which records were kept. -/
structure Alike (one two : Logging) (c d : Context) : Prop where
  host : c.host = d.host
  calls : c.calls = d.calls
  records : SameLog one two c.records d.records
  neverNull : c.host.NeverNull

/-- The operation is blind to the last error and to the log. -/
abbrev Op.Blind {α : Type} (one two : Logging) (op : Op α) : Prop :=
  Effect.Blind one two (Alike one two) (Alike one two) op

section Operations

variable {α : Type} {one two : Logging}

theorem blind_pageSize : Op.Blind one two pageSize := by
  intro c d alike
  simp only [exec_pageSize, alike.host, true_and]
  exact alike

theorem blind_setLastError (errno : Errno) : Op.Blind one two (setLastError errno) :=
  fun _ _ alike => ⟨rfl, alike.host, alike.calls, alike.records, alike.neverNull⟩

theorem blind_fail (error : Error) : Op.Blind one two (fail error : Op α) :=
  blind_throw (Stop.error error)

theorem blind_orPanic (value : Except Panic α) : Op.Blind one two (orPanic value) := by
  cases value with
  | ok value => exact blind_pure value
  | error panic => exact blind_throw (Stop.panic panic)

/-- Both runs reach the same record; each keeps it or not. -/
theorem blind_emit (record : Record) : Op.Blind one two (emit record) := by
  have emitted : ∀ (logging : Logging) (context : Context),
      ((emit record).exec logging context).2.host = context.host ∧
      ((emit record).exec logging context).2.calls = context.calls ∧
      ((emit record).exec logging context).2.records =
        if logging.shows record.level then context.records ++ [record] else context.records := by
    intro logging context
    rw [exec_emit]
    by_cases shown : logging.shows record.level = true <;> simp [shown]
  intro c d alike
  obtain ⟨hostOne, callsOne, recordsOne⟩ := emitted one c
  obtain ⟨hostTwo, callsTwo, recordsTwo⟩ := emitted two d
  refine ⟨?_, ?_, ?_, ?_, ?_⟩
  · rw [exec_emit, exec_emit]
  · rw [hostOne, hostTwo, alike.host]
  · rw [callsOne, callsTwo, alike.calls]
  · rw [recordsOne, recordsTwo]
    exact alike.records.emit record
  · rw [hostOne]
    exact alike.neverNull

theorem blind_load (start length : Nat) : Op.Blind one two (load start length) := by
  intro c d alike
  rw [exec_load, exec_load, alike.host]
  cases d.host.memory.read? start length with
  | some bytes => exact ⟨rfl, alike⟩
  | none => exact ⟨rfl, alike⟩

theorem blind_store (start length : Nat) (content : Nat → UInt8) :
    Op.Blind one two (store start length content) := by
  intro c d alike
  rw [exec_store, exec_store, alike.host]
  cases d.host.memory.write? start length content with
  | some memory =>
      have neverNull := alike.neverNull
      rw [alike.host] at neverNull
      exact ⟨rfl, rfl, alike.calls, alike.records, neverNull⟩
  | none => exact ⟨rfl, alike⟩

theorem blind_attempt {op : Op α} (blind : Op.Blind one two op) :
    Op.Blind one two (attempt op) := by
  intro c d related
  obtain ⟨same, after⟩ := blind c d related
  rw [exec_attempt, exec_attempt]
  rcases ranOne : op.exec one c with ⟨result, c'⟩
  rcases ranTwo : op.exec two d with ⟨result', d'⟩
  rw [ranOne, ranTwo] at same after
  cases same
  rcases result with (error | panic | _) | value <;> exact ⟨rfl, after⟩

theorem blind_callCode (address : UInt64) (x y : Int32) :
    Op.Blind one two (callCode address x y) := by
  intro c d alike
  unfold callCode
  simp only [Effect.exec_bind, Effect.exec_get, alike.host]
  cases execute d.host.memory.fetch? x y address.toNat 0 with
  | some result => exact ⟨rfl, alike⟩
  | none => exact ⟨rfl, alike⟩

/-! A refusal reads the last error. It is reached in two ways. -/

/-- Where the last errors are the same, a refusal reports the same number. -/
theorem blind_refused (kind : CallKind) (address length : UInt64) :
    Effect.Blind one two (fun c d => Alike one two c d ∧ c.lastError = d.lastError) (Alike one two)
      (Mapping.refused kind address length : Op α) := by
  rintro c d ⟨alike, number⟩
  obtain ⟨_, emitted⟩ := blind_emit (.refused kind length address d.lastError) c d alike
  rw [Mapping.exec_refused, Mapping.exec_refused, number]
  exact ⟨rfl, emitted.host, emitted.calls, emitted.records, emitted.neverNull⟩

/-- A host call is answered in the same way. A refused one leaves its number as the last error in
both runs. -/
theorem blind_sysCall {request : Request} {next : Reply → Op α}
    (ok : ∀ (host : Host) value, host.NeverNull → (host.call request).1 = .ok value →
      Op.Blind one two (next (.ok value)))
    (error : ∀ errno, Effect.Blind one two
      (fun c d => Alike one two c d ∧ c.lastError = d.lastError) (Alike one two)
      (next (.error errno))) :
    Op.Blind one two (sysCall request >>= next) := by
  intro c d alike
  have neverNull := alike.neverNull.call request
  have answered := ok c.host
  rw [Effect.exec_bind, Effect.exec_bind, exec_sysCall, exec_sysCall, ← alike.host, ← alike.calls]
  rcases called : c.host.call request with ⟨reply, host⟩
  rw [called] at neverNull answered
  cases reply with
  | error errno =>
      refine error errno _ _ ⟨?_, rfl⟩
      exact ⟨rfl, rfl, alike.records, neverNull⟩
  | ok value =>
      refine answered value alike.neverNull rfl _ _ ?_
      exact ⟨rfl, rfl, alike.records, neverNull⟩

theorem blind_length (size : UInt64) : Op.Blind one two (Mapping.length size) := by
  refine blind_bind blind_pageSize fun pageSize => ?_
  refine blind_bind (blind_orPanic _) fun length? => ?_
  cases length? with
  | some length => exact blind_pure length
  | none =>
      refine blind_bind (blind_emit _) fun _ => ?_
      refine blind_bind (blind_setLastError _) fun _ => ?_
      exact blind_fail _

theorem blind_alloc (size : UInt64) : Op.Blind one two (Mapping.alloc size) := by
  refine blind_bind (blind_length size) fun length => ?_
  refine blind_sysCall (fun host address neverNull answered => ?_) fun _ =>
    blind_refused .map 0 length
  have notNull := Host.call_map_ne_null neverNull answered
  simp only [if_neg notNull]
  exact blind_bind (blind_emit _) fun _ => blind_pure address

/-- An operation that computes its length and makes one call, which it does not have to look at. -/
theorem blind_length_sysCall {size : UInt64} {request : UInt64 → Request}
    {next : UInt64 → Reply → Op α} (ok : ∀ length value, Op.Blind one two (next length (.ok value)))
    (error : ∀ length errno, Effect.Blind one two
      (fun c d => Alike one two c d ∧ c.lastError = d.lastError) (Alike one two)
      (next length (.error errno))) :
    Op.Blind one two (do
      let length ← Mapping.length size
      let reply ← sysCall (request length)
      next length reply) := by
  refine blind_bind (blind_length size) fun length => ?_
  exact blind_sysCall (fun _ value _ _ => ok length value) (error length)

theorem blind_protect (address size : UInt64) (flags : Flags) :
    Op.Blind one two (Mapping.protect address size flags) :=
  blind_length_sysCall (fun _ _ => blind_emit _) fun length _ =>
    blind_refused .protect address length

theorem blind_release (address size : UInt64) : Op.Blind one two (Mapping.release address size) :=
  blind_length_sysCall (fun _ _ => blind_emit _) fun length _ => blind_refused .unmap address length

theorem blind_mapping_makeExecutable (address size : UInt64) :
    Op.Blind one two (Mapping.makeExecutable address size) := by
  refine blind_bind (blind_length size) fun length => ?_
  exact blind_bind (blind_pure ()) fun _ => blind_protect address size .readExec

theorem blind_allocate (size : UInt64) : Op.Blind one two (Region.allocate size) :=
  blind_bind (blind_alloc size) fun _ => blind_pure _

theorem blind_mappedLength (region : Region) : Op.Blind one two region.mappedLength := by
  refine blind_bind (blind_attempt (blind_length region.size)) fun length => ?_
  cases length with
  | ok length => exact blind_pure length
  | error error => exact blind_pure region.size

theorem blind_requireWritable (region : Region) : Op.Blind one two region.requireWritable := by
  unfold Region.requireWritable
  cases region.state with
  | writable => exact blind_pure ()
  | executable => exact blind_fail .invalidState

theorem blind_read (region : Region) (start stop : UInt64) :
    Op.Blind one two (region.read start stop) :=
  blind_bind (blind_orPanic _) fun _ => blind_load _ _

theorem blind_write (region : Region) (offset : UInt64) (bytes : List UInt8) :
    Op.Blind one two (region.write offset bytes) := by
  rw [Region.write_eq]
  refine blind_bind (blind_requireWritable region) fun _ => ?_
  split
  · exact blind_store _ _ _
  · exact blind_fail .invalidArgument

theorem blind_fill (region : Region) (value : UInt8) : Op.Blind one two (region.fill value) :=
  blind_bind (blind_requireWritable region) fun _ => blind_store _ _ _

theorem blind_makeExecutable (region : Region) : Op.Blind one two region.makeExecutable := by
  refine blind_bind (blind_requireWritable region) fun _ => ?_
  exact blind_bind (blind_mapping_makeExecutable region.base region.size) fun _ => blind_pure _

theorem blind_discard (region : Region) : Op.Blind one two region.discard := by
  refine blind_bind (blind_attempt (blind_release region.base region.size)) fun freed => ?_
  cases freed with
  | ok _ => exact blind_pure ()
  | error error => exact blind_emit _

/-- The cleanup of a region that could not be finished is blind as well. -/
theorem blind_ofCode (code : List UInt8) : Op.Blind one two (Region.ofCode code) := by
  refine blind_bind (blind_allocate _) fun region => ?_
  have finish : Op.Blind one two (do region.write 0 code; region.makeExecutable) :=
    blind_bind (blind_write region 0 code) fun _ => blind_makeExecutable region
  refine blind_bind (blind_attempt finish) fun finished => ?_
  cases finished with
  | ok executable => exact blind_pure executable
  | error error => exact blind_bind (blind_discard region) fun _ => blind_fail error

theorem blind_status {op : Op Unit} (blind : Op.Blind one two op) :
    Op.Blind one two (CInterface.status op) := by
  refine blind_bind (blind_attempt blind) fun done => ?_
  cases done with
  | ok _ => exact blind_pure 0
  | error error => exact blind_pure (-1)

theorem blind_cInterface_alloc (size : UInt64) : Op.Blind one two (CInterface.alloc size) := by
  refine blind_bind (blind_attempt (blind_alloc size)) fun done => ?_
  cases done with
  | ok address => exact blind_pure address
  | error error => exact blind_pure 0

end Operations

/-! ## Steps -/

/-- Contexts that are alike, with the same slots. -/
def AlikeSlots (one two : Logging) (s t : Context × Slots) : Prop :=
  Alike one two s.1 t.1 ∧ s.2 = t.2

/-- The step is blind to the last error and to the log. -/
abbrev StepM.Blind {α : Type} (one two : Logging) (run : StepM α) : Prop :=
  Effect.Blind one two (AlikeSlots one two) (AlikeSlots one two) run

section Steps

variable {α : Type} {one two : Logging}

theorem blind_op {op : Op α} (blind : Op.Blind one two op) : StepM.Blind one two (StepM.op op) := by
  rintro ⟨c, slots⟩ ⟨d, _⟩ ⟨related, rfl⟩
  obtain ⟨same, after⟩ := blind c d related
  unfold StepM.op
  rw [exec_ofOp, exec_ofOp]
  rcases ranOne : op.exec one c with ⟨result, c'⟩
  rcases ranTwo : op.exec two d with ⟨result', d'⟩
  rw [ranOne, ranTwo] at same after
  cases same
  cases result with
  | ok value => exact ⟨rfl, after, rfl⟩
  | error stop => exact ⟨rfl, after, rfl⟩

theorem blind_slot (id : SlotId) : StepM.Blind one two (StepM.slot id) := by
  rintro ⟨c, slots⟩ ⟨d, _⟩ ⟨alike, rfl⟩
  cases found : slots.get? id with
  | none => simp [StepM.slot, found, AlikeSlots, alike]
  | some slot => simp [StepM.slot, found, AlikeSlots, alike]

theorem blind_region (id : SlotId) : StepM.Blind one two (StepM.region id) := by
  refine blind_bind (blind_slot id) fun slot => ?_
  cases slot with
  | region region => exact blind_pure region
  | raw address => exact blind_throw _

theorem blind_put (id : SlotId) (slot : Slot) : StepM.Blind one two (StepM.put id slot) :=
  blind_modify fun _ _ related => ⟨related.1, congrArg (Slots.insert · id slot) related.2⟩

theorem blind_takeRegion (id : SlotId) : StepM.Blind one two (StepM.takeRegion id) := by
  refine blind_bind (blind_region id) fun region => ?_
  refine blind_bind (blind_modify fun _ _ related => ?_) fun _ => blind_pure region
  exact ⟨related.1, congrArg (Slots.erase · id) related.2⟩

theorem blind_requireEmpty (id : SlotId) : StepM.Blind one two (StepM.requireEmpty id) := by
  rintro ⟨c, slots⟩ ⟨d, _⟩ ⟨alike, rfl⟩
  cases found : slots.get? id with
  | none => simp [StepM.requireEmpty, found, AlikeSlots, alike]
  | some slot => simp [StepM.requireEmpty, found, AlikeSlots, alike]

theorem blind_resolve (place : Place) : StepM.Blind one two place.resolve := by
  unfold Place.resolve
  cases place with
  | absolute address => exact blind_pure address
  | slot id offset => exact blind_bind (blind_slot id) fun slot => blind_pure _

/-- A step that fills an empty slot. -/
theorem blind_create {β : Type} {op : Op α} {next : α → StepM β} {id : SlotId}
    (blind : Op.Blind one two op) (rest : ∀ value, StepM.Blind one two (next value)) :
    StepM.Blind one two (do
      StepM.requireEmpty id
      let value ← StepM.op op
      next value) :=
  blind_bind (blind_requireEmpty id) fun _ => blind_bind (blind_op blind) rest

/-- A step that resolves a place and runs one operation there. -/
theorem blind_at {place : Place} {op : UInt64 → Op α} {answer : α → Value}
    (blind : ∀ address, Op.Blind one two (op address)) :
    StepM.Blind one two (do
      let address ← place.resolve
      let value ← StepM.op (op address)
      return answer value) := by
  refine blind_bind (blind_resolve place) fun address => ?_
  exact blind_bind (blind_op (blind address)) fun _ => blind_pure _

/-- A step that runs one operation on the region of a slot. -/
theorem blind_use {id : SlotId} {op : Region → Op α} {answer : Region → α → Value}
    (blind : ∀ region, Op.Blind one two (op region)) :
    StepM.Blind one two (do
      let region ← StepM.region id
      let value ← StepM.op (op region)
      return answer region value) := by
  refine blind_bind (blind_region id) fun region => ?_
  exact blind_bind (blind_op (blind region)) fun _ => blind_pure _

theorem blind_consume {id : SlotId} {op : Region → Op Unit}
    (blind : ∀ region, Op.Blind one two (op region)) :
    StepM.Blind one two (do
      let region ← StepM.takeRegion id
      StepM.op (op region)
      return Value.unit) := by
  refine blind_bind (blind_takeRegion id) fun region => ?_
  exact blind_bind (blind_op (blind region)) fun _ => blind_pure _

theorem blind_mappingCall (call : MappingCall) : StepM.Blind one two call.run := by
  cases call with
  | length size =>
      exact blind_bind (blind_op (blind_length size)) fun _ => blind_pure _
  | alloc slot size =>
      refine blind_create (blind_alloc size) fun address => ?_
      exact blind_bind (blind_put slot _) fun _ => blind_pure _
  | protect place size flags => exact blind_at fun address => blind_protect address size flags
  | makeExecutable place size =>
      exact blind_at fun address => blind_mapping_makeExecutable address size
  | release place size => exact blind_at fun address => blind_release address size
  | flushInstructionCache place size => exact blind_at fun address => blind_pure ()

theorem blind_cCall {call : CCall} (unread : call ≠ .errno) : StepM.Blind one two call.run := by
  cases call with
  | errno => exact absurd rfl unread
  | pageSize => exact blind_bind (blind_op blind_pageSize) fun _ => blind_pure _
  | alloc slot size =>
      refine blind_create (blind_cInterface_alloc size) fun address => ?_
      by_cases notNull : address ≠ 0
      · simp only [if_pos notNull]
        exact blind_bind (blind_put slot _) fun _ => blind_pure _
      · simp only [if_neg notNull]
        exact blind_pure _
  | makeExecutable place size =>
      exact blind_at fun address => blind_status (blind_mapping_makeExecutable address size)
  | free place size => exact blind_at fun address => blind_status (blind_release address size)

theorem blind_regionCall (id : SlotId) (call : RegionCall) :
    StepM.Blind one two (call.run id) := by
  cases call with
  | allocate size =>
      refine blind_create (blind_allocate size) fun region => ?_
      exact blind_bind (blind_put id _) fun _ => blind_pure _
  | ofCode code =>
      refine blind_create (blind_ofCode code) fun region => ?_
      exact blind_bind (blind_put id _) fun _ => blind_pure _
  | info => exact blind_use fun region => blind_mappedLength region
  | makeExecutable =>
      refine blind_bind (blind_region id) fun region => ?_
      refine blind_bind (blind_op (blind_makeExecutable region)) fun executable => ?_
      exact blind_bind (blind_put id _) fun _ => blind_pure _
  | read start stop => exact blind_use fun region => blind_read region start _
  | write offset bytes => exact blind_use fun region => blind_write region offset bytes
  | fill value => exact blind_use fun region => blind_fill region value
  | free => exact blind_consume fun region => blind_release region.base region.size
  | discard => exact blind_consume blind_discard
  | call arguments offset =>
      refine blind_bind (blind_region id) fun region => ?_
      cases region.entry? with
      | some entry => exact blind_bind (blind_op (blind_callCode _ _ _)) fun _ => blind_pure _
      | none => exact blind_op (blind_fail .invalidState)

end Steps

/-- The step reads the last error. -/
def Step.readsLastError : Step → Bool
  | .library .lastError _ | .library (.c .errno) _ => true
  | _ => false

/-- The step plans to answer a request for memory with null. -/
def Step.plansNull : Step → Bool
  | .host (.plan plan) => plan.fault == .null
  | _ => false

/-- The step without regard to the thread it runs in. -/
def Step.unthreaded : Step → Step
  | .library call _ => .library call false
  | .host action => .host action

theorem blind_hostAction {one two : Logging} {action : HostAction}
    (notNull : (Step.host action).plansNull = false) : StepM.Blind one two action.run := by
  cases action with
  | plan next =>
      refine blind_bind (blind_modify ?_) fun _ => blind_pure _
      rintro ⟨c, slots⟩ ⟨d, _⟩ ⟨alike, rfl⟩
      refine ⟨⟨?_, alike.calls, alike.records, ?_⟩, rfl⟩
      · exact congrArg (fun host : Host => { host with plans := host.plans ++ [next] }) alike.host
      · intro plan member
        rcases List.mem_append.mp member with old | new
        · exact alike.neverNull plan old
        · cases List.mem_singleton.mp new
          simpa [Step.plansNull] using notNull
  | setPageSize size =>
      refine blind_bind (blind_modify ?_) fun _ => blind_pure _
      rintro ⟨c, slots⟩ ⟨d, _⟩ ⟨alike, rfl⟩
      refine ⟨⟨?_, alike.calls, alike.records, alike.neverNull⟩, rfl⟩
      exact congrArg (fun host : Host => { host with pageSize := size }) alike.host
  | peek place length => exact blind_at fun address => blind_load _ _
  | poke place bytes => exact blind_at fun address => blind_store _ _ _
  | call place arguments => exact blind_at fun address => blind_callCode _ _ _

theorem blind_stepRun {one two : Logging} {step : Step} (unread : step.readsLastError = false)
    (notNull : step.plansNull = false) : StepM.Blind one two step.run := by
  cases step with
  | host action => exact blind_hostAction notNull
  | library call inThread =>
      cases call with
      | pageSize => exact blind_bind (blind_op blind_pageSize) fun _ => blind_pure _
      | lastError => cases unread
      | setLastError errno =>
          exact blind_bind (blind_op (blind_setLastError errno)) fun _ => blind_pure _
      | mapping call => exact blind_mappingCall call
      | c call =>
          refine blind_cCall ?_
          rintro rfl
          cases unread
      | region id call => exact blind_regionCall id call

/-! ## Scripts -/

/-- Two answers of one step, given under two loggings. -/
structure Answer.Agrees (one two : Logging) (a b : Answer) : Prop where
  result : a.result = b.result
  calls : a.calls = b.calls
  layout : a.layout = b.layout
  records : SameLog one two a.records b.records

/-- Two machines that differ only in the last error. -/
structure Machine.Twins (m n : Machine) : Prop where
  host : m.host = n.host
  slots : m.slots = n.slots
  neverNull : m.host.NeverNull

theorem Step.run_eq_of_unthreaded {step other : Step} (same : step.unthreaded = other.unthreaded) :
    step.run = other.run := by
  cases step with
  | library call inThread =>
      cases other with
      | library => cases same; rfl
      | host => cases same
  | host action =>
      cases other with
      | library => cases same
      | host => cases same; rfl

namespace Machine

variable {one two : Logging} {m n : Machine}

/-- One step, in whichever thread, keeps twins twins. -/
theorem step_agrees {step other : Step} (twins : m.Twins n)
    (same : step.unthreaded = other.unthreaded) (unread : step.readsLastError = false)
    (notNull : step.plansNull = false) :
    (m.step one step).1.Agrees one two (n.step two other).1 ∧
      (m.step one step).2.Twins (n.step two other).2 := by
  have start : ∀ e e' : Errno, AlikeSlots one two
      (Context.start m.host e, m.slots) (Context.start n.host e', n.slots) := fun e e' =>
    ⟨⟨twins.host, rfl, SameLog.nil, twins.neverNull⟩, twins.slots⟩
  obtain ⟨sameResult, alike, sameSlots⟩ := @blind_stepRun one two step unread notNull _ _
    (start (if step.inOwnThread then .success else m.lastError)
      (if other.inOwnThread then .success else n.lastError))
  rcases ranOne : step.run.exec one (.start m.host _, m.slots) with ⟨result, c, slots⟩
  rcases ranTwo : step.run.exec two (.start n.host _, n.slots) with ⟨result', d, slots'⟩
  rw [ranOne, ranTwo] at sameResult alike sameSlots
  rw [Step.run_eq_of_unthreaded same] at ranTwo
  cases sameResult
  cases sameSlots
  cases undone : undoes result with
  | true =>
      obtain ⟨_, stepOne⟩ := step_of_exec_undone step ranOne undone
      obtain ⟨_, stepTwo⟩ := step_of_exec_undone other ranTwo undone
      rw [stepOne, stepTwo]
      exact ⟨⟨rfl, rfl, congrArg Host.layout twins.host, SameLog.nil⟩, twins⟩
  | false =>
      rw [step_of_exec step ranOne undone, step_of_exec other ranTwo undone]
      exact ⟨⟨rfl, alike.calls, congrArg Host.layout alike.host, alike.records⟩,
        alike.host, rfl, alike.neverNull⟩

/-- A whole script keeps twins twins. -/
theorem run_agrees {steps others : List Step} (twins : m.Twins n)
    (same : steps.map Step.unthreaded = others.map Step.unthreaded)
    (unread : ∀ step ∈ steps, step.readsLastError = false)
    (notNull : ∀ step ∈ steps, step.plansNull = false) :
    List.Forall₂ (Answer.Agrees one two) (m.run one steps).1 (n.run two others).1 ∧
      (m.run one steps).2.Twins (n.run two others).2 := by
  induction steps generalizing m n others with
  | nil =>
      cases List.map_eq_nil_iff.mp same.symm
      exact ⟨.nil, twins⟩
  | cons step later ih =>
      obtain ⟨other, laterOther, rfl, sameStep, sameLater⟩ := List.map_eq_cons_iff.mp same.symm
      obtain ⟨agrees, twinsNext⟩ := @step_agrees one two m n step other twins sameStep.symm
        (unread step (by simp)) (notNull step (by simp))
      obtain ⟨agreeLater, twinsLast⟩ := ih twinsNext sameLater.symm
        (fun step member => unread step (List.mem_cons_of_mem _ member))
        (fun step member => notNull step (List.mem_cons_of_mem _ member))
      exact ⟨.cons agrees agreeLater, twinsLast⟩

end Machine

/-- **Logging, the last error and threads do not interfere.** Take a script that neither reads the
last error nor plans a null address, and run it twice: with different log levels, different loggers,
different last errors at the start, and different steps in threads of their own. All steps give the
same results, make the same host calls with the same replies, and leave the same memory. The records
that a step produces at a level are those that it produces with everything logged and that are at
least as severe, in the same order. With logging off it produces none. -/
theorem logging_does_not_interfere (one two : Logging) (e₁ e₂ : Errno) {steps others : List Step}
    (same : steps.map Step.unthreaded = others.map Step.unthreaded)
    (unread : ∀ step ∈ steps, step.readsLastError = false)
    (notNull : ∀ step ∈ steps, step.plansNull = false) :
    List.Forall₂ (fun a b : Answer => a.result = b.result ∧ a.calls = b.calls ∧
        a.layout = b.layout ∧
        (∀ level, two.maxLevel = some .trace → one.maxLevel = some level →
          a.records = b.records.filter fun record => record.level.rank ≤ level.rank) ∧
        (one.maxLevel = none → a.records = []))
      ({ Machine.initial with lastError := e₁ }.run one steps).1
      ({ Machine.initial with lastError := e₂ }.run two others).1 ∧
    ∀ n, ({ Machine.initial with lastError := e₁ }.run one (steps.take n)).2.host =
        ({ Machine.initial with lastError := e₂ }.run two (others.take n)).2.host ∧
      ({ Machine.initial with lastError := e₁ }.run one (steps.take n)).2.slots =
        ({ Machine.initial with lastError := e₂ }.run two (others.take n)).2.slots := by
  have twins : Machine.Twins { Machine.initial with lastError := e₁ }
      { Machine.initial with lastError := e₂ } := ⟨rfl, rfl, fun _ member => nomatch member⟩
  constructor
  · refine (Machine.run_agrees twins same unread notNull).1.imp ?_
    intro a b agrees
    exact ⟨agrees.result, agrees.calls, agrees.layout,
      fun level all limit => agrees.records.eq_filter all limit, agrees.records.eq_nil⟩
  · intro n
    have sameThen : (steps.take n).map Step.unthreaded = (others.take n).map Step.unthreaded := by
      rw [List.map_take, same, List.map_take]
    have after := (@Machine.run_agrees one two _ _ _ _ twins sameThen
      (fun step member => unread step (List.mem_of_mem_take member))
      (fun step member => notNull step (List.mem_of_mem_take member))).2
    exact ⟨after.host, after.slots⟩

/-- A script with refusals of each kind. Some of its calls run in a thread of their own if
`inThread`. -/
def refusals (inThread : Bool) : List Step := [
  .host (.plan ⟨0, .refuse .protect .accessDenied⟩),
  .library (.region 0 (.ofCode [0xc3])) inThread,
  .host (.plan ⟨0, .refuse .unmap .notPermitted⟩),
  .library (.region 0 (.allocate 8)) false,
  .library (.region 0 .discard) inThread,
  .library (.c (.alloc 1 0xffffffffffffffff)) inThread]

theorem logging_does_not_interfere_refusals :
    let clobbering : Logging := ⟨some .debug, some ⟨7⟩⟩
    let tracing : Logging := ⟨some .trace, none⟩
    let one := { Machine.initial with lastError := ⟨5⟩ }.run clobbering (refusals false)
    let two := Machine.initial.run tracing (refusals true)
    one.1.map Answer.result = [.ok .unit,
      .error (.stop (.error (.unsupportedTransition .accessDenied))), .ok .unit,
      .ok (.address 0x10000200000), .ok .unit, .ok (.address 0)] ∧
    List.Forall₂ (fun a b : Answer => a.result = b.result ∧ a.calls = b.calls ∧
      a.records = b.records.filter fun record => record.level.rank ≤ Level.debug.rank) one.1 two.1 ∧
    one.2.host.memory = two.2.host.memory := by
  obtain ⟨answers, machines⟩ :=
    logging_does_not_interfere ⟨some .debug, some ⟨7⟩⟩ ⟨some .trace, none⟩ ⟨5⟩ .success
    (by decide : (refusals false).map Step.unthreaded = (refusals true).map Step.unthreaded)
    (by decide) (by decide)
  refine ⟨by decide +kernel, answers.imp ?_, congrArg Host.memory (machines 6).1⟩
  intro a b agrees
  exact ⟨agrees.1, agrees.2.1, agrees.2.2.2.1 .debug rfl rfl⟩

end ExecMemory
