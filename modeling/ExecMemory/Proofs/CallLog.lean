import ExecMemory.Proofs.Endings
import ExecMemory.Proofs.HostInvariant
import Mathlib.Data.List.Forall2

/-!
# What operations add to the log

With the least severe level shown, every host call leaves a record.

* `LoggedAs` says which record tells of a call: what it did if it succeeded, why it failed if not. A
  mapping at the null address is a failure.
* `Op.Logs` is what an operation with at most one host call adds to the trace. Allocating, changing
  access and releasing are such operations.
* `Op.Quiet` says that an operation adds nothing.
* `Region.Dropped` and `Region.Built` say what the operations add that are made from these: a region
  that ends without a report, and a region that is built from code.
-/

namespace ExecMemory

/-- The host did what it was asked to. Fresh memory is never at the null address. -/
def SysCall.succeeded : SysCall → Bool
  | ⟨.map .., .ok address⟩ => address != 0
  | ⟨_, .ok _⟩ => true
  | ⟨_, .error _⟩ => false

theorem SysCall.succeeded_error (request : Request) (errno : Errno) :
    SysCall.succeeded ⟨request, .error errno⟩ = false := by
  cases request <;> rfl

/-- The record that tells of a host call. -/
inductive LoggedAs : SysCall → Record → Prop
  | mapped {length address : UInt64} {perms : Perms} (notNull : address ≠ 0) :
      LoggedAs ⟨.map length perms, .ok address⟩ (.mapped length address)
  | reprotected {address length value : UInt64} {flags : Flags} :
      LoggedAs ⟨.protect address length flags.perms, .ok value⟩ (.reprotected length address flags)
  | unmapped {address length value : UInt64} :
      LoggedAs ⟨.unmap address length, .ok value⟩ (.unmapped length address)
  | refused {request : Request} {errno : Errno} :
      LoggedAs ⟨request, .error errno⟩ (.refused request.kind request.length request.address errno)
  | null {length : UInt64} {perms : Perms} {errno : Errno} :
      LoggedAs ⟨.map length perms, .ok 0⟩ (.refused .map length 0 errno)

namespace LoggedAs

variable {call : SysCall} {record : Record}

theorem target (logged : LoggedAs call record) : record.target = "jit_shim::virtual_memory" := by
  cases logged <;> rfl

/-- Successes are traced, failures are for debugging. -/
theorem level (logged : LoggedAs call record) :
    record.level = if call.succeeded then .trace else .debug := by
  cases logged with
  | mapped notNull => exact (if_pos (bne_iff_ne.mpr notNull)).symm
  | @refused request errno => cases request <;> rfl
  | reprotected | unmapped | null => rfl

/-- Only a failure is told of as one. -/
theorem ne_refused (logged : LoggedAs call record) (succeeded : call.succeeded = true)
    (kind : CallKind) (length address : UInt64) (errno : Errno) :
    record ≠ .refused kind length address errno := by
  cases logged with
  | mapped | reprotected | unmapped => nofun
  | refused =>
      rw [SysCall.succeeded_error] at succeeded
      cases succeeded
  | null => cases succeeded

variable {calls : List SysCall} {records : List Record}

/-- Each of the records tells of one of the calls. -/
theorem exists_call (logged : List.Forall₂ LoggedAs calls records) {record : Record}
    (member : record ∈ records) : ∃ call ∈ calls, LoggedAs call record := by
  induction logged with
  | nil => cases member
  | cons first _ ih =>
      rcases List.mem_cons.mp member with rfl | rest
      · exact ⟨_, List.mem_cons_self, first⟩
      · obtain ⟨call, made, told⟩ := ih rest
        exact ⟨call, List.mem_cons_of_mem _ made, told⟩

theorem targets (logged : List.Forall₂ LoggedAs calls records) :
    ∀ record ∈ records, record.target = "jit_shim::virtual_memory" := by
  intro record member
  obtain ⟨_, _, told⟩ := exists_call logged member
  exact told.target

theorem levels (logged : List.Forall₂ LoggedAs calls records) :
    records.map Record.level = calls.map fun made => if made.succeeded then .trace else .debug := by
  induction logged with
  | nil => rfl
  | cons first _ ih => rw [List.map_cons, List.map_cons, first.level, ih]

/-- Where everything succeeded, no failure is told of. -/
theorem refused_not_mem (logged : List.Forall₂ LoggedAs calls records)
    (succeeded : ∀ call ∈ calls, call.succeeded = true) (kind : CallKind) (length address : UInt64)
    (errno : Errno) : .refused kind length address errno ∉ records := by
  intro member
  obtain ⟨call, made, told⟩ := exists_call logged member
  exact told.ne_refused (succeeded call made) kind length address errno rfl

end LoggedAs

/-! ## Operations with one host call -/

/-- What was added to the trace between two moments in which the host reports the same page size. -/
structure Context.Adds (before later : Context) (calls : List SysCall) (records : List Record) :
    Prop where
  calls : later.calls = before.calls ++ calls
  records : later.records = before.records ++ records
  pageSize : later.host.pageSize = before.host.pageSize

namespace Context

variable {before between later : Context} {calls more : List SysCall} {records rest : List Record}

theorem Adds.refl (context : Context) : context.Adds context [] [] :=
  ⟨(List.append_nil _).symm, (List.append_nil _).symm, rfl⟩

theorem Adds.trans (first : before.Adds between calls records)
    (second : between.Adds later more rest) :
    before.Adds later (calls ++ more) (records ++ rest) where
  calls := by rw [second.calls, first.calls, List.append_assoc]
  records := by rw [second.records, first.records, List.append_assoc]
  pageSize := second.pageSize.trans first.pageSize

end Context

/-- How an operation of one kind can end, and what it has added to the trace then. Nothing is said
about a panic. -/
inductive Logged {α : Type} (kind : CallKind) (address size : UInt64) (before : Context) :
    Except Stop α × Context → Prop
  | panicked {panic : Panic} {later : Context} :
      Logged kind address size before (.error (.panic panic), later)
  | unrounded {later : Context} (rounding : mappingLength size before.host.pageSize = .ok none)
      (adds : before.Adds later [] [.cannotRound size]) :
      Logged kind address size before (.error (.error .tooLarge), later)
  | done {length : UInt64} {call : SysCall} {record : Record} {value : α} {later : Context}
      (rounds : mappingLength size before.host.pageSize = .ok (some length))
      (same : call.request.kind = kind)
      (logged : LoggedAs call record) (succeeded : call.succeeded = true)
      (adds : before.Adds later [call] [record]) :
      Logged kind address size before (.ok value, later)
  | failed {length : UInt64} {call : SysCall} {errno : Errno} {later : Context}
      (rounds : mappingLength size before.host.pageSize = .ok (some length))
      (same : call.request.kind = kind)
      (logged : LoggedAs call (.refused kind length address errno))
      (failed : call.succeeded = false)
      (adds : before.Adds later [call] [.refused kind length address errno])
      (number : later.lastError = errno) :
      Logged kind address size before (.error (.error (Mapping.classify kind errno)), later)

/-- With everything shown, the operation ends in one of these ways. -/
def Op.Logs {α : Type} (kind : CallKind) (address size : UInt64) (op : Op α) : Prop :=
  ∀ logging (context : Context), logging.maxLevel = some .trace →
    Logged kind address size context (op.exec logging context)

/-- Every level is shown. -/
theorem adds_emit {logging : Logging} (all : logging.maxLevel = some .trace) (record : Record)
    (context : Context) : context.Adds ((emit record).exec logging context).2 [] [record] := by
  rw [exec_emit, if_pos (Logging.shows_of_trace all record.level)]
  exact ⟨(List.append_nil _).symm, rfl, rfl⟩

theorem exec_emit_eq (record : Record) (logging : Logging) (context : Context) :
    (emit record).exec logging context = (.ok (), ((emit record).exec logging context).2) := by
  rw [exec_emit]

theorem adds_sysCall (request : Request) (logging : Logging) (context : Context) :
    context.Adds ((sysCall request).exec logging context).2
      [⟨request, (context.host.call request).1⟩] [] := by
  rw [exec_sysCall]
  exact ⟨rfl, (List.append_nil _).symm, (Host.call_extends rfl).pageSize⟩

namespace Op

variable {α β : Type} {kind : CallKind} {address size : UInt64} {op : Op α}

/-- What is done with the value adds nothing. -/
theorem Logs.andPure (logs : op.Logs kind address size) (f : α → β) :
    Op.Logs kind address size (do return f (← op)) := by
  intro logging context all
  have ended := logs logging context all
  rw [Effect.exec_bind]
  rcases ran : op.exec logging context with ⟨stop | value, later⟩
  · rw [ran] at ended
    cases ended with
    | panicked => exact .panicked
    | unrounded rounding adds => exact .unrounded rounding adds
    | failed rounds same logged failed adds number =>
        exact .failed rounds same logged failed adds number
  · rw [ran] at ended
    cases ended with
    | done rounds same logged succeeded adds => exact .done rounds same logged succeeded adds

end Op

namespace Mapping

open Op

variable {α : Type} {kind : CallKind} {address size length : UInt64}

/-- Either there is a length to go on with, or that is all there is to tell. -/
theorem logs_length {next : UInt64 → Op α} (continues : ∀ logging (context : Context) length,
      logging.maxLevel = some .trace →
        mappingLength size context.host.pageSize = .ok (some length) →
        Logged kind address size context ((next length).exec logging context)) :
    Op.Logs kind address size (Mapping.length size >>= next) := by
  intro logging context all
  rw [Effect.exec_bind, exec_length]
  rcases rounding : mappingLength size context.host.pageSize with panic | _ | length
  · exact .panicked
  · obtain ⟨calls, records, pageSize⟩ := adds_emit all (.cannotRound size) context
    exact .unrounded rounding ⟨calls, records, pageSize⟩
  · exact continues logging context length all rounding

/-- A failed call is told of with the number that is the last error then. -/
theorem logged_refused {logging : Logging} {before asked : Context} {call : SysCall}
    (all : logging.maxLevel = some .trace)
    (rounds : mappingLength size before.host.pageSize = .ok (some length))
    (same : call.request.kind = kind)
    (logged : LoggedAs call (.refused kind length address asked.lastError))
    (failed : call.succeeded = false)
    (adds : before.Adds asked [call] []) :
    Logged kind address size before ((refused kind address length : Op α).exec logging asked) := by
  rw [exec_refused]
  obtain ⟨calls, records, pageSize⟩ :=
    adds.trans (adds_emit all (.refused kind length address asked.lastError) asked)
  exact .failed rounds same logged failed ⟨calls, records, pageSize⟩ rfl

theorem logs_alloc (size : UInt64) : (alloc size).Logs .map 0 size := by
  refine logs_length fun logging context length all rounds => ?_
  have adds := adds_sysCall (.map length Flags.readWrite.perms) logging context
  rw [Effect.exec_bind]
  rw [exec_sysCall] at adds ⊢
  rcases called : context.host.call (.map length Flags.readWrite.perms) with ⟨errno | base, host⟩
  · rw [called] at adds
    exact logged_refused all rounds rfl .refused rfl adds
  · rw [called] at adds
    dsimp only at adds ⊢
    by_cases null : base = 0
    · rw [if_pos null]
      subst null
      exact logged_refused all rounds rfl .null rfl adds
    · rw [if_neg null, Effect.exec_bind]
      have traced := adds.trans (adds_emit all (.mapped length base) _)
      rw [exec_emit] at traced ⊢
      exact .done rounds rfl (.mapped null) (bne_iff_ne.mpr null) traced

/-- A request whose success has no answer but the record of it. -/
theorem logs_request {request : UInt64 → Request} {record : UInt64 → Record}
    (about : ∀ length, (request length).kind = kind ∧ (request length).address = address ∧
      (request length).length = length)
    (logged : ∀ length value, LoggedAs ⟨request length, .ok value⟩ (record length))
    (succeeds : ∀ length value, SysCall.succeeded ⟨request length, .ok value⟩ = true) :
    Op.Logs kind address size (do
      let length ← Mapping.length size
      match ← sysCall (request length) with
      | .ok _ => emit (record length)
      | .error _ => refused kind address length) := by
  refine logs_length fun logging context length all rounds => ?_
  have adds := adds_sysCall (request length) logging context
  rw [Effect.exec_bind]
  rw [exec_sysCall] at adds ⊢
  rcases called : context.host.call (request length) with ⟨errno | value, host⟩
  · rw [called] at adds
    obtain ⟨sameKind, sameAddress, sameLength⟩ := about length
    have failure := @LoggedAs.refused (request length) errno
    rw [sameKind, sameAddress, sameLength] at failure
    exact logged_refused all rounds sameKind failure (SysCall.succeeded_error _ errno) adds
  · rw [called] at adds
    have traced := adds.trans (adds_emit all (record length) _)
    dsimp only
    rw [exec_emit] at traced ⊢
    exact .done rounds (about length).1 (logged length value) (succeeds length value) traced

theorem logs_protect (address size : UInt64) (flags : Flags) :
    (protect address size flags).Logs .protect address size :=
  logs_request (fun _ => ⟨rfl, rfl, rfl⟩) (fun _ _ => .reprotected) fun _ _ => rfl

theorem logs_release (address size : UInt64) : (release address size).Logs .unmap address size :=
  logs_request (fun _ => ⟨rfl, rfl, rfl⟩) (fun _ _ => .unmapped) fun _ _ => rfl

/-- The length is computed twice, but only the first time can it be missing. -/
theorem logs_makeExecutable (address size : UInt64) :
    (makeExecutable address size).Logs .protect address size :=
  logs_length fun logging context _ all _ => logs_protect address size .readExec logging context all

end Mapping

/-! ## Operations without host calls -/

/-- However it ends, the operation adds nothing to the trace. -/
def Op.Quiet {α : Type} (op : Op α) : Prop :=
  ∀ before : Context, Effect.Keeps (fun context => before.Adds context [] []) op

namespace Op

variable {α β : Type}

theorem quiet_pure (value : α) : Op.Quiet (pure value) := fun _ => keeps_pure value

theorem quiet_throw (stop : Stop) : Op.Quiet (throw stop : Op α) := fun _ => keeps_throw stop

theorem Quiet.bind {op : Op α} {next : α → Op β} (first : op.Quiet)
    (second : ∀ value, (next value).Quiet) :
    Op.Quiet (op >>= next) :=
  fun before => keeps_bind (first before) fun value => second value before

theorem quiet_pageSize : pageSize.Quiet := fun _ _ _ adds => adds

theorem quiet_lastError : lastError.Quiet := fun _ _ _ adds => adds

theorem quiet_setLastError (errno : Errno) : (setLastError errno).Quiet :=
  fun _ _ _ adds => ⟨adds.calls, adds.records, adds.pageSize⟩

theorem quiet_orPanic (value : Except Panic α) : Op.Quiet (orPanic value) := by
  cases value with
  | ok value => exact quiet_pure value
  | error panic => exact quiet_throw (.panic panic)

theorem quiet_load (start length : Nat) : Op.Quiet (load start length) := by
  intro before logging context adds
  rw [exec_load]
  split
  · exact adds
  · exact adds

theorem quiet_store (start length : Nat) (content : Nat → UInt8) :
    Op.Quiet (store start length content) := by
  intro before logging context adds
  rw [exec_store]
  split
  · exact ⟨adds.calls, adds.records, adds.pageSize⟩
  · exact adds

theorem quiet_callCode (address : UInt64) (x y : Int32) : Op.Quiet (callCode address x y) := by
  intro before
  refine keeps_bind keeps_get fun context => ?_
  split
  · exact keeps_pure _
  · exact keeps_throw _

theorem Quiet.adds {op : Op α} (quiet : op.Quiet) {logging : Logging} {context later : Context}
    {result : Except Stop α} (ran : op.exec logging context = (result, later)) :
    context.Adds later [] [] := by
  have adds := quiet context logging context (.refl context)
  rwa [ran] at adds

end Op

namespace Region

open Op

theorem quiet_requireWritable (region : Region) : region.requireWritable.Quiet := by
  unfold requireWritable
  cases region.state with
  | writable => exact quiet_pure ()
  | executable => exact quiet_throw _

theorem quiet_read (region : Region) (start stop : UInt64) : (region.read start stop).Quiet :=
  (quiet_orPanic _).bind fun _ => quiet_load _ _

theorem quiet_write (region : Region) (offset : UInt64) (bytes : List UInt8) :
    (region.write offset bytes).Quiet := by
  rw [write_eq]
  refine region.quiet_requireWritable.bind fun _ => ?_
  by_cases inside : offset.toNat + bytes.length ≤ region.size.toNat
  · rw [if_pos inside]
    exact quiet_store _ _ _
  · rw [if_neg inside]
    exact quiet_throw _

theorem quiet_fill (region : Region) (value : UInt8) : (region.fill value).Quiet :=
  region.quiet_requireWritable.bind fun _ => quiet_store _ _ _

end Region

/-! ## Operations made from them -/

namespace Region

open Op

/-- What dropping a region adds to the trace. -/
inductive Dropped (region : Region) (before : Context) : Context → Prop
  | released {length : UInt64} {call : SysCall} {record : Record} {later : Context}
      (rounds : mappingLength region.size before.host.pageSize = .ok (some length))
      (logged : LoggedAs call record) (succeeded : call.succeeded = true)
      (adds : before.Adds later [call] [record]) : Dropped region before later
  | refused {length : UInt64} {call : SysCall} {errno : Errno} {later : Context}
      (rounds : mappingLength region.size before.host.pageSize = .ok (some length))
      (unmaps : call.request.kind = .unmap) (failed : call.succeeded = false)
      (logged : LoggedAs call (.refused .unmap length region.base errno))
      (adds : before.Adds later [call] [.refused .unmap length region.base errno,
        .notReleased region.base (.invalidRegion errno)]) : Dropped region before later
  | unrounded {later : Context}
      (rounding : mappingLength region.size before.host.pageSize = .ok none)
      (adds : before.Adds later [] [.cannotRound region.size, .notReleased region.base .tooLarge]) :
      Dropped region before later

/-- A drop that does not panic ends, and what went wrong is in the log only. -/
theorem dropped_discard (region : Region) {logging : Logging} (all : logging.maxLevel = some .trace)
    (context : Context) :
    (∃ panic later, region.discard.exec logging context = (.error (.panic panic), later)) ∨
      ∃ later, region.discard.exec logging context = (.ok (), later) ∧
        Dropped region context later := by
  have logs := Mapping.logs_release region.base region.size logging context all
  unfold discard free
  rw [Effect.exec_bind, exec_attempt]
  rcases ran : (Mapping.release region.base region.size).exec logging context with ⟨stop | _, later⟩
  · rw [ran] at logs
    cases logs with
    | @panicked panic => exact .inl ⟨panic, later, rfl⟩
    | unrounded rounding adds =>
        have warns := adds.trans (adds_emit all (.notReleased region.base .tooLarge) later)
        exact .inr ⟨_, exec_emit_eq _ _ _, .unrounded rounding warns⟩
    | @failed _ _ errno _ rounds same logged failed adds =>
        have warns :=
          adds.trans (adds_emit all (.notReleased region.base (.invalidRegion errno)) later)
        exact .inr ⟨_, exec_emit_eq _ _ _, .refused rounds same failed logged warns⟩
  · rw [ran] at logs
    cases logs with
    | done rounds _ logged succeeded adds =>
        exact .inr ⟨later, rfl, .released rounds logged succeeded adds⟩

theorem logs_allocate (size : UInt64) : (allocate size).Logs .map 0 size :=
  (Mapping.logs_alloc size).andPure fun base => Region.mk base size .writable

theorem allocate_ok {size : UInt64} {logging : Logging} {context later : Context} {region : Region}
    (ran : (allocate size).exec logging context = (.ok region, later)) :
    region.size = size ∧ region.state = .writable := by
  unfold allocate at ran
  rw [Effect.exec_bind] at ran
  rcases asked : (Mapping.alloc size).exec logging context with ⟨stop | base, between⟩
  · rw [asked] at ran
    cases ran
  · rw [asked] at ran
    cases ran
    exact ⟨rfl, rfl⟩

theorem logs_makeExecutable {region : Region} (writable : region.state = .writable) :
    region.makeExecutable.Logs .protect region.base region.size := by
  have passes : region.makeExecutable = (do
      let done ← Mapping.makeExecutable region.base region.size
      return (fun _ => { region with state := .executable }) done) := by
    simp [makeExecutable, requireWritable, writable]
  rw [passes]
  exact (Mapping.logs_makeExecutable region.base region.size).andPure _

/-- How building a region from code can end, and what it has added to the trace then. When something
fails after memory was mapped, the region is dropped. -/
inductive Built (size : UInt64) (before : Context) : Except Stop Region × Context → Prop
  | stopped {stop : Stop} {later : Context} (abrupt : ∀ error, stop ≠ .error error) :
      Built size before (.error stop, later)
  | unallocated {error : Error} {later : Context}
      (logged : @Logged Region .map 0 size before (.error (.error error), later)) :
      Built size before (.error (.error error), later)
  | finished {length : UInt64} {made : List SysCall} {told : List Record} {region : Region}
      {later : Context} (rounds : mappingLength size before.host.pageSize = .ok (some length))
      (logged : List.Forall₂ LoggedAs made told) (succeeded : ∀ call ∈ made, call.succeeded = true)
      (adds : before.Adds later made told) : Built size before (.ok region, later)
  | dropped {length : UInt64} {made : List SysCall} {told : List Record} {region : Region}
      {error : Error} {between later : Context}
      (rounds : mappingLength size before.host.pageSize = .ok (some length))
      (logged : List.Forall₂ LoggedAs made told) (held : ∀ call ∈ made, call.request.kind ≠ .unmap)
      (carried : ∀ kind length address errno, .refused kind length address errno ∈ told →
        kind ≠ .unmap ∧ error = Mapping.classify kind errno)
      (adds : before.Adds between made told) (sized : region.size = size)
      (dropped : Dropped region between later) : Built size before (.error (.error error), later)

/-- When the rest of the work fails, the region is dropped and the error passed on. -/
theorem built_error {size length : UInt64} {logging : Logging} {before between : Context}
    {region : Region} {error : Error} {made : List SysCall} {told : List Record}
    (all : logging.maxLevel = some .trace)
    (rounds : mappingLength size before.host.pageSize = .ok (some length))
    (logged : List.Forall₂ LoggedAs made told) (held : ∀ call ∈ made, call.request.kind ≠ .unmap)
    (carried : ∀ kind length address errno, .refused kind length address errno ∈ told →
      kind ≠ .unmap ∧ error = Mapping.classify kind errno)
    (adds : before.Adds between made told) (sized : region.size = size) :
    Built size before ((do region.discard; fail error : Op Region).exec logging between) := by
  rw [Effect.exec_bind]
  rcases region.dropped_discard all between with ⟨panic, later, ran⟩ | ⟨later, ran, dropped⟩
  · rw [ran]
    exact .stopped nofun
  · rw [ran]
    exact .dropped rounds logged held carried adds sized dropped

theorem built_ofCode (code : List UInt8) {logging : Logging} (all : logging.maxLevel = some .trace)
    (context : Context) :
    Built (.ofNat code.length) context ((ofCode code).exec logging context) := by
  have allocated := logs_allocate (.ofNat code.length) logging context all
  unfold ofCode
  rw [Effect.exec_bind]
  rcases asked : (allocate (.ofNat code.length)).exec logging context with ⟨stop | region, mapped⟩
  · rw [asked] at allocated
    cases allocated with
    | panicked => exact .stopped nofun
    | unrounded rounding adds => exact .unallocated (.unrounded rounding adds)
    | failed rounds same logged failed adds number =>
        exact .unallocated (.failed rounds same logged failed adds number)
  · rw [asked] at allocated
    obtain ⟨sized, writable⟩ := allocate_ok asked
    cases allocated with
    | @done _ made _ _ _ rounds same logged succeeded adds =>
        have held : made.request.kind ≠ .unmap := by
          rw [same]
          nofun
        have notRefused := logged.ne_refused succeeded
        dsimp only
        rw [Effect.exec_bind, exec_attempt, Effect.exec_bind]
        rcases wrote : (region.write 0 code).exec logging mapped with ⟨stop | _, written⟩
        · have quiet := adds.trans ((region.quiet_write 0 code).adds wrote)
          cases stop with
          | panic panic => exact .stopped nofun
          | fault => exact .stopped nofun
          | error error =>
              refine built_error all rounds (.cons logged .nil) (List.forall_mem_singleton.mpr held)
                ?_ quiet sized
              intro kind length address errno told
              exact absurd (List.mem_singleton.mp told).symm (notRefused kind length address errno)
        · have quiet := adds.trans ((region.quiet_write 0 code).adds wrote)
          have changed := logs_makeExecutable writable logging written all
          dsimp only
          rcases finished : region.makeExecutable.exec logging written with
            ⟨stop | executable, later⟩
          · rw [finished] at changed
            cases changed with
            | panicked => exact .stopped nofun
            | unrounded rounding adds =>
                rw [sized, quiet.pageSize, rounds] at rounding
                cases rounding
            | @failed _ changed _ _ _ same' refused _ adds' =>
                have heldToo : changed.request.kind ≠ .unmap := by
                  rw [same']
                  nofun
                refine built_error all rounds (.cons logged (.cons refused .nil)) ?_ ?_
                  (quiet.trans adds') sized
                · exact List.forall_mem_cons.mpr ⟨held, List.forall_mem_singleton.mpr heldToo⟩
                · intro kind length address errno told
                  rcases List.mem_cons.mp told with first | second
                  · exact absurd first.symm (notRefused kind length address errno)
                  · cases List.mem_singleton.mp second
                    exact ⟨nofun, rfl⟩
          · rw [finished] at changed
            cases changed with
            | done _ same' logged' succeeded' adds' =>
                refine .finished rounds (.cons logged (.cons logged' .nil)) ?_ (quiet.trans adds')
                exact List.forall_mem_cons.mpr ⟨succeeded, List.forall_mem_singleton.mpr succeeded'⟩

end Region

end ExecMemory
