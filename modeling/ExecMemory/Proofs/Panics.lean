import ExecMemory.Proofs.Jobs

/-!
# The only panic

The library gives up in one situation: the host reports a page size that is not a power of two, and
a length has to be computed from it. All other places where arithmetic, a range or a copy could go
wrong are guarded.

* `Call.roundedSize?` is the size that a call computes a length from, if it gets that far.
* `Op.Panics` says that an operation panics before it does anything, wherever the page size is no
  power of two; `Op.Calm` that it does not panic. Both are put together along the definitions of the
  operations.
* `panics_only_on_page_size` settles it for every step that manages mappings and regions, in any
  state.
* No other check of the arithmetic can fail. Rounding and writing are defined with every
  subtraction, range and copy checked, and amount to forms without those checks
  (`roundUpToPage_unchecked`, `Region.write_eq`).
-/

namespace ExecMemory

/-- The size from which a call computes a length, if it comes to that: its slot and its place are
there, and a region that is to become executable is not so yet. -/
def Call.roundedSize? (slots : Slots) : Call → Option UInt64
  | .mapping (.length size) => some size
  | .mapping (.alloc slot size) | .c (.alloc slot size) | .region slot (.allocate size) =>
    if slots.get? slot = none then some size else none
  | .region slot (.ofCode code) =>
    if slots.get? slot = none then some (.ofNat code.length) else none
  | .mapping (.protect place size _) | .mapping (.makeExecutable place size)
  | .mapping (.release place size) | .c (.makeExecutable place size) | .c (.free place size) =>
    (place.address? slots).map fun _ => size
  | .region id .info | .region id .free | .region id .discard => do
    let region ← slots.region? id
    some region.size
  | .region id .makeExecutable => do
    let region ← slots.region? id
    if region.state = .writable then some region.size else none
  | .mapping (.flushInstructionCache ..) | .c .pageSize | .c .errno | .region _ (.read ..)
  | .region _ (.write ..) | .region _ (.fill _) | .region _ (.call ..)
  | .pageSize | .lastError | .setLastError _ => none

/-! ## Operations -/

/-- The operation panics at once if the page size is not a power of two. -/
def Op.Panics {α : Type} (op : Op α) : Prop :=
  ∀ logging (context : Context), ¬ context.host.pageSize.toNat.isPowerOfTwo →
    op.exec logging context =
      (.error (.panic (.pageSizeNotPowerOfTwo context.host.pageSize)), context)

/-- The operation does not panic on a host that reports a page size in `ok`, and the page size
stays. -/
def Op.Calm {α : Type} (ok : UInt64 → Prop) (op : Op α) : Prop :=
  ∀ logging (context : Context), ok context.host.pageSize →
    (∀ panic, (op.exec logging context).1 ≠ .error (.panic panic)) ∧
      (op.exec logging context).2.host.pageSize = context.host.pageSize

/-- The page sizes that lengths can be computed from. -/
abbrev Rounds (page : UInt64) : Prop := page.toNat.isPowerOfTwo

namespace Op

variable {α β : Type} {ok : UInt64 → Prop} {op : Op α}

theorem Panics.bind {next : α → Op β} (first : op.Panics) : Op.Panics (op >>= next) := by
  intro logging context odd
  rw [Effect.exec_bind, first logging context odd]

theorem Panics.attempt (panics : op.Panics) : Op.Panics (attempt op) := by
  intro logging context odd
  rw [exec_attempt, panics logging context odd]

theorem calm_pure (value : α) : Calm ok (pure value) := fun _ _ _ => ⟨nofun, rfl⟩

theorem calm_fail (error : Error) : Calm ok (fail error : Op α) := fun _ _ _ => ⟨nofun, rfl⟩

theorem calm_lastError : Calm ok lastError := fun _ _ _ => ⟨nofun, rfl⟩

theorem calm_setLastError (errno : Errno) :
    Calm ok (setLastError errno) := fun _ _ _ => ⟨nofun, rfl⟩

theorem calm_emit (record : Record) : Calm ok (emit record) := by
  intro logging context _
  rw [exec_emit]
  refine ⟨nofun, ?_⟩
  dsimp only
  split
  · rfl
  · rfl

theorem calm_sysCall (request : Request) : Calm ok (sysCall request) := by
  intro logging context _
  rw [exec_sysCall]
  exact ⟨nofun, (Host.call_extends rfl).pageSize⟩

theorem calm_store (start length : Nat) (content : Nat → UInt8) :
    Calm ok (store start length content) := by
  intro logging context _
  rw [exec_store]
  cases context.host.memory.write? start length content with
  | some memory => exact ⟨nofun, rfl⟩
  | none => exact ⟨nofun, rfl⟩

/-- The second part runs with the same page size. -/
theorem Calm.bind {next : α → Op β} (first : Calm ok op) (second : ∀ value, Calm ok (next value)) :
    Calm ok (op >>= next) := by
  intro logging context holds
  obtain ⟨calm, kept⟩ := first logging context holds
  rw [Effect.exec_bind]
  rcases ran : op.exec logging context with ⟨stop | value, later⟩
  · rw [ran] at calm kept
    refine ⟨fun panic stopped => ?_, kept⟩
    cases stopped
    exact calm panic rfl
  · rw [ran] at kept
    change later.host.pageSize = _ at kept
    obtain ⟨calmNext, keptNext⟩ := second value logging later (kept ▸ holds)
    exact ⟨calmNext, keptNext.trans kept⟩

theorem Calm.attempt (calm : Calm ok op) : Calm ok (attempt op) := by
  intro logging context holds
  obtain ⟨calm, kept⟩ := calm logging context holds
  rw [exec_attempt]
  rcases ran : op.exec logging context with ⟨(error | panic | _) | value, later⟩
  · rw [ran] at kept
    exact ⟨nofun, kept⟩
  · rw [ran] at calm
    exact absurd rfl (calm panic)
  · rw [ran] at kept
    exact ⟨nofun, kept⟩
  · rw [ran] at kept
    exact ⟨nofun, kept⟩

end Op

namespace Mapping

open Op

variable {α : Type} {ok : UInt64 → Prop}

theorem panics_length (size : UInt64) : (length size).Panics := by
  intro logging context odd
  rw [exec_length, mappingLength_of_not_isPowerOfTwo odd]

theorem calm_length (size : UInt64) : Calm Rounds (length size) := by
  intro logging context power
  have rounding := mappingLength_eq size power
  by_cases fits : leastMultiple size.toNat context.host.pageSize.toNat < UInt64.size
  · rw [if_pos fits] at rounding
    rw [exec_length, rounding]
    exact ⟨nofun, rfl⟩
  · rw [if_neg fits] at rounding
    rw [exec_length, rounding]
    exact ⟨nofun, (@calm_emit Rounds (.cannotRound size) logging context power).2⟩

theorem calm_refused (kind : CallKind) (address length : UInt64) :
    Calm ok (refused kind address length : Op α) := by
  refine calm_lastError.bind fun errno => ?_
  refine (calm_emit _).bind fun _ => ?_
  exact (calm_setLastError errno).bind fun _ => calm_fail _

theorem panics_alloc (size : UInt64) : (alloc size).Panics := (panics_length size).bind

theorem panics_protect (address size : UInt64) (flags : Flags) :
    (protect address size flags).Panics :=
  (panics_length size).bind

theorem panics_makeExecutable (address size : UInt64) : (makeExecutable address size).Panics :=
  (panics_length size).bind

theorem panics_release (address size : UInt64) : (release address size).Panics :=
  (panics_length size).bind

theorem calm_alloc (size : UInt64) : Calm Rounds (alloc size) := by
  refine (calm_length size).bind fun length => ?_
  refine (calm_sysCall _).bind fun reply => ?_
  cases reply with
  | error errno => exact calm_refused .map 0 length
  | ok address =>
      by_cases null : address = 0
      · simp only [if_pos null]
        exact calm_refused .map 0 length
      · simp only [if_neg null]
        exact (calm_emit _).bind fun _ => calm_pure address

theorem calm_protect (address size : UInt64) (flags : Flags) :
    Calm Rounds (protect address size flags) := by
  refine (calm_length size).bind fun length => ?_
  refine (calm_sysCall _).bind fun reply => ?_
  cases reply with
  | error errno => exact calm_refused .protect address length
  | ok value => exact calm_emit _

theorem calm_makeExecutable (address size : UInt64) :
    Calm Rounds (makeExecutable address size) := by
  refine (calm_length size).bind fun length => ?_
  exact (calm_pure ()).bind fun _ => calm_protect address size .readExec

theorem calm_release (address size : UInt64) : Calm Rounds (release address size) := by
  refine (calm_length size).bind fun length => ?_
  refine (calm_sysCall _).bind fun reply => ?_
  cases reply with
  | error errno => exact calm_refused .unmap address length
  | ok value => exact calm_emit _

end Mapping

namespace Region

open Op

variable {ok : UInt64 → Prop}

theorem calm_requireWritable (region : Region) : Calm ok region.requireWritable := by
  unfold requireWritable
  cases region.state with
  | writable => exact calm_pure ()
  | executable => exact calm_fail .invalidState

theorem calm_write (region : Region) (offset : UInt64) (bytes : List UInt8) :
    Calm ok (region.write offset bytes) := by
  rw [write_eq]
  refine region.calm_requireWritable.bind fun _ => ?_
  by_cases inside : offset.toNat + bytes.length ≤ region.size.toNat
  · rw [if_pos inside]
    exact calm_store _ _ _
  · rw [if_neg inside]
    exact calm_fail .invalidArgument

theorem calm_fill (region : Region) (value : UInt8) : Calm ok (region.fill value) :=
  region.calm_requireWritable.bind fun _ => calm_store _ _ _

theorem calm_mappedLength (region : Region) : Calm Rounds region.mappedLength := by
  refine (Mapping.calm_length region.size).attempt.bind fun length => ?_
  cases length with
  | ok length => exact calm_pure length
  | error error => exact calm_pure region.size

theorem calm_makeExecutable (region : Region) : Calm Rounds region.makeExecutable := by
  refine region.calm_requireWritable.bind fun _ => ?_
  exact (Mapping.calm_makeExecutable region.base region.size).bind fun _ => calm_pure _

/-- An executable region is turned away before a length is computed. -/
theorem calm_makeExecutable_executable {region : Region} (executable : region.state = .executable) :
    Calm ok region.makeExecutable := by
  intro logging context _
  have refused : region.makeExecutable.exec logging context =
      (.error (.error .invalidState), context) := by
    simp [makeExecutable, requireWritable, executable]
  rw [refused]
  exact ⟨nofun, rfl⟩

theorem panics_makeExecutable {region : Region} (writable : region.state = .writable) :
    region.makeExecutable.Panics := by
  intro logging context odd
  simp [makeExecutable, requireWritable, writable,
    Mapping.panics_makeExecutable _ _ logging context odd]

theorem calm_discard (region : Region) : Calm Rounds region.discard := by
  refine (Mapping.calm_release region.base region.size).attempt.bind fun freed => ?_
  cases freed with
  | ok _ => exact calm_pure ()
  | error error => exact calm_emit _

theorem panics_discard (region : Region) : region.discard.Panics :=
  (Mapping.panics_release region.base region.size).attempt.bind

theorem calm_allocate (size : UInt64) : Calm Rounds (allocate size) :=
  (Mapping.calm_alloc size).bind fun _ => calm_pure _

theorem panics_allocate (size : UInt64) : (allocate size).Panics := (Mapping.panics_alloc size).bind

/-- The page size that the first length was computed from is still there for the others. -/
theorem calm_ofCode (code : List UInt8) : Calm Rounds (ofCode code) := by
  refine (calm_allocate _).bind fun region => ?_
  have finish : Calm Rounds (do region.write 0 code; region.makeExecutable) :=
    (region.calm_write 0 code).bind fun _ => region.calm_makeExecutable
  refine finish.attempt.bind fun finished => ?_
  cases finished with
  | ok executable => exact calm_pure executable
  | error error => exact region.calm_discard.bind fun _ => calm_fail error

theorem panics_ofCode (code : List UInt8) : (ofCode code).Panics := (panics_allocate _).bind

end Region

/-! ## Calls -/

/-- A call that manages mappings or regions: any but those that hand out bytes or run code. -/
def Call.manages : Call → Bool
  | .mapping _ => true
  | .region _ (.read ..) | .region _ (.call ..) => false
  | .region _ _ => true
  | .pageSize | .lastError | .setLastError _ | .c _ => false

/-- The slots without the region that the call ends, whatever comes of it. -/
def Call.kept (slots : Slots) : Call → Slots
  | .region id .free | .region id .discard => slots.erase id
  | _ => slots

/-- A job as far as panics are concerned: it computes a length first and panics there or not at all,
and then leaves the slots `kept`; or it computes none and does not panic. -/
def Job.Settled (kept : Slots) (job : Job) : Option UInt64 → Prop
  | some _ => job.op.Panics ∧ job.op.Calm Rounds ∧ job.left = kept
  | none => job.op.Calm fun _ => True

/-- A call that does not start computes no length. -/
def Settled (kept : Slots) (rounded? : Option UInt64) : Except Halt Job → Prop
  | .ok job => job.Settled kept rounded?
  | .error _ => rounded? = none

section Calls

open Job

variable {α : Type} {slots kept : Slots} {id : SlotId} {place : Place}

theorem settled_create {op : Op α} {slot : α → Slot} {answer : α → Value} (panics : op.Panics)
    (calm : op.Calm Rounds) (size : UInt64) :
    Settled slots (if slots.get? id = none then some size else none)
      (create slots id op slot answer) := by
  unfold create
  cases found : slots.get? id with
  | none => exact ⟨panics, calm, rfl⟩
  | some slot => rfl

theorem settled_atPlace {op : UInt64 → Op α} {answer : α → Value}
    (panics : ∀ address, (op address).Panics) (calm : ∀ address, (op address).Calm Rounds)
    (size : UInt64) :
    Settled slots ((place.address? slots).map fun _ => size) (atPlace slots place op answer) := by
  unfold atPlace
  cases place.address? slots with
  | none => rfl
  | some address => exact ⟨panics address, calm address, rfl⟩

theorem settled_atPlace_never {op : UInt64 → Op α} {answer : α → Value}
    (calm : ∀ address, (op address).Calm fun _ => True) :
    Settled kept none (atPlace slots place op answer) := by
  unfold atPlace
  cases place.address? slots with
  | none => rfl
  | some address => exact calm address

theorem settled_onRegion {job : Region → Job} {rounded? : Region → Option UInt64}
    (settled : ∀ region, (job region).Settled kept (rounded? region)) :
    Settled kept ((slots.region? id).bind rounded?) (onRegion slots id job) := by
  unfold onRegion
  cases slots.region? id with
  | none => rfl
  | some region => exact settled region

theorem settled_onRegion_never {job : Region → Job}
    (calm : ∀ region, (job region).op.Calm fun _ => True) :
    Settled kept none (onRegion slots id job) := by
  unfold onRegion
  cases slots.region? id with
  | none => rfl
  | some region => exact calm region

theorem settled_mappingCall (call : MappingCall) :
    Settled slots ((Call.mapping call).roundedSize? slots) (call.job slots) := by
  cases call with
  | length size => exact ⟨Mapping.panics_length size, Mapping.calm_length size, rfl⟩
  | alloc slot size =>
      exact settled_create (Mapping.panics_alloc size) (Mapping.calm_alloc size) size
  | protect place size flags =>
      exact settled_atPlace (fun address => Mapping.panics_protect address size flags)
        (fun address => Mapping.calm_protect address size flags) size
  | makeExecutable place size =>
      exact settled_atPlace (fun address => Mapping.panics_makeExecutable address size)
        (fun address => Mapping.calm_makeExecutable address size) size
  | release place size =>
      exact settled_atPlace (fun address => Mapping.panics_release address size)
        (fun address => Mapping.calm_release address size) size
  | flushInstructionCache place size =>
      exact settled_atPlace_never fun address => Op.calm_pure ()

theorem settled_regionCall {call : RegionCall} (manages : (Call.region id call).manages = true) :
    Settled ((Call.region id call).kept slots) ((Call.region id call).roundedSize? slots)
      (call.job slots id) := by
  cases call with
  | allocate size =>
      exact settled_create (Region.panics_allocate size) (Region.calm_allocate size) size
  | ofCode code => exact settled_create (Region.panics_ofCode code) (Region.calm_ofCode code) _
  | info =>
      exact settled_onRegion fun region =>
        ⟨(Mapping.panics_length region.size).attempt.bind, region.calm_mappedLength, rfl⟩
  | free =>
      exact settled_onRegion fun region =>
        ⟨Mapping.panics_release region.base region.size,
          Mapping.calm_release region.base region.size, rfl⟩
  | discard =>
      exact settled_onRegion fun region => ⟨region.panics_discard, region.calm_discard, rfl⟩
  | write offset bytes =>
      exact settled_onRegion_never fun region => region.calm_write offset bytes
  | fill value => exact settled_onRegion_never fun region => region.calm_fill value
  | makeExecutable =>
      refine settled_onRegion fun region => ?_
      cases state : region.state with
      | writable => exact ⟨Region.panics_makeExecutable state, region.calm_makeExecutable, rfl⟩
      | executable =>
          rw [if_neg nofun]
          show Op.Calm (fun _ => True) region.makeExecutable
          exact Region.calm_makeExecutable_executable state
  | read start stop => cases manages
  | call arguments offset => cases manages

theorem settled {call : Call} (manages : call.manages = true) :
    Settled (call.kept slots) (call.roundedSize? slots) (call.job slots) := by
  cases call with
  | mapping call => exact settled_mappingCall call
  | region id call => exact settled_regionCall manages
  | pageSize | lastError | setLastError errno | c call => cases manages

end Calls

/-! ## Steps -/

namespace Machine

variable {machine : Machine} {call : Call}

theorem not_panics_of_calm (logging : Logging) (inThread : Bool) {job : Job} {ok : UInt64 → Prop}
    (found : call.job machine.slots = .ok job) (calm : job.op.Calm ok)
    (holds : ok machine.host.pageSize)
    (panic : Panic) :
    (machine.step logging (.library call inThread)).1.result ≠ .error (.stop (.panic panic)) := by
  have quiet := (calm logging (machine.start inThread) holds).1
  rcases ran : job.op.exec logging (machine.start inThread) with
    ⟨(error | other | _) | value, later⟩
  · rw [step_job found ran nofun]
    nofun
  · rw [ran] at quiet
    exact absurd rfl (quiet other)
  · rw [step_job_fault found ran]
    nofun
  · rw [step_job found ran nofun]
    nofun

/-- A step panics before it does anything, or not at all. -/
theorem step_panics_or_not (logging : Logging) (inThread : Bool) (manages : call.manages = true) :
    (call.roundedSize? machine.slots ≠ none ∧ ¬ machine.host.pageSize.toNat.isPowerOfTwo) ∧
      machine.step logging (.library call inThread) =
        (⟨.error (.stop (.panic (.pageSizeNotPowerOfTwo machine.host.pageSize))),
            (machine.start inThread).lastError, [], [], machine.host.layout⟩,
          { machine with slots := call.kept machine.slots }) ∨
    ¬ (call.roundedSize? machine.slots ≠ none ∧ ¬ machine.host.pageSize.toNat.isPowerOfTwo) ∧
      ∀ panic, (machine.step logging (.library call inThread)).1.result ≠
        .error (.stop (.panic panic)) := by
  have settled := @settled machine.slots call manages
  cases found : call.job machine.slots with
  | error halt =>
      rw [found] at settled
      refine .inr ⟨fun reached => reached.1 settled, fun panic => ?_⟩
      obtain ⟨_, stepped⟩ := @step_halted logging machine call inThread halt found
      rw [stepped]
      rcases Call.job_error found with rfl | rfl <;> nofun
  | ok job =>
      rw [found] at settled
      cases rounded : call.roundedSize? machine.slots with
      | none =>
          rw [rounded] at settled
          change job.op.Calm (fun _ => True) at settled
          exact .inr ⟨fun reached => reached.1 rfl,
            not_panics_of_calm logging inThread found settled trivial⟩
      | some size =>
          rw [rounded] at settled
          obtain ⟨panics, calm, left⟩ := settled
          by_cases power : machine.host.pageSize.toNat.isPowerOfTwo
          · exact .inr ⟨fun reached => reached.2 power,
              not_panics_of_calm logging inThread found calm power⟩
          · refine .inl ⟨⟨Option.some_ne_none size, power⟩, ?_⟩
            rw [step_job found (panics logging (machine.start inThread) power) nofun, ← left]
            cases inThread <;> rfl

end Machine

/-- **The only panic.** Take any machine, whatever page size its host reports, and any call that
manages mappings or regions.

* It panics if and only if the page size is not a power of two and the call comes to computing a
  length, and always for that reason.
* A call that panics has made no host call and produced no record. Host, memory, last error and
  slots are as before, except that a region that was to be freed or discarded has left its slot.
* The arithmetic hides no other panic. Rounding checks every subtraction and writing checks every
  sum, range and copy, and what they do is what they would do without those checks. -/
theorem panics_only_on_page_size (logging : Logging) (machine : Machine) {call : Call}
    (manages : call.manages = true) (inThread : Bool) :
    let stepped := machine.step logging (.library call inThread)
    (∀ panic, stepped.1.result = .error (.stop (.panic panic)) ↔
      call.roundedSize? machine.slots ≠ none ∧ ¬ machine.host.pageSize.toNat.isPowerOfTwo ∧
        panic = .pageSizeNotPowerOfTwo machine.host.pageSize) ∧
    (∀ panic, stepped.1.result = .error (.stop (.panic panic)) →
      stepped.1.calls = [] ∧ stepped.1.records = [] ∧
        stepped.2 = { machine with slots := call.kept machine.slots }) ∧
    (∀ size page, roundUpToPage size page =
      if page.toNat.isPowerOfTwo then
        .ok ((checkedAdd size (page - 1)).map fun last => last &&& ~~~(page - 1))
      else .error (.pageSizeNotPowerOfTwo page)) ∧
    ∀ (region : Region) (offset : UInt64) (bytes : List UInt8), region.write offset bytes = (do
      region.requireWritable
      if offset.toNat + bytes.length ≤ region.size.toNat then
        storeBytes (region.base.toNat + offset.toNat) bytes
      else fail .invalidArgument) := by
  intro stepped
  refine and_assoc.mp ⟨?_, roundUpToPage_unchecked, Region.write_eq⟩
  rcases Machine.step_panics_or_not logging inThread manages with
    ⟨⟨reached, odd⟩, panicked⟩ | ⟨unreached, calm⟩
  · refine ⟨fun panic => ?_, fun panic _ => ?_⟩
    · rw [show stepped = _ from panicked]
      simp [reached, odd, eq_comm]
    · rw [show stepped = _ from panicked]
      exact ⟨rfl, rfl, rfl⟩
  · refine ⟨fun panic => ⟨fun panicked => absurd panicked (calm panic), ?_⟩,
      fun panic panicked => absurd panicked (calm panic)⟩
    rintro ⟨reached, odd, _⟩
    exact absurd ⟨reached, odd⟩ unreached

/-- A region was allocated, and then the host reports a page size that is not a power of two. -/
def oddMachine : Machine :=
  (Machine.initial.run .silent [.library (.region 0 (.allocate 10)) false,
    .host (.setPageSize 3000)]).2

theorem panics_only_on_page_size_oddMachine :
    let discarded := oddMachine.step .silent (.library (.region 0 .discard) false)
    let written := oddMachine.step .silent (.library (.region 0 (.write 8 [1, 2, 3])) false)
    discarded.1.result = .error (.stop (.panic (.pageSizeNotPowerOfTwo 3000))) ∧
    discarded.2 = { oddMachine with slots := oddMachine.slots.erase 0 } ∧
    ∀ panic, written.1.result ≠ .error (.stop (.panic panic)) := by
  have page : oddMachine.host.pageSize = 3000 := by decide +kernel
  have odd : ¬ oddMachine.host.pageSize.toNat.isPowerOfTwo := by
    rw [page]
    decide
  obtain ⟨panics, leaves, _⟩ :=
    @panics_only_on_page_size .silent oddMachine (.region 0 .discard) rfl false
  obtain ⟨onlyThen, _⟩ :=
    @panics_only_on_page_size .silent oddMachine (.region 0 (.write 8 [1, 2, 3])) rfl false
  have panicked := (panics (.pageSizeNotPowerOfTwo 3000)).mpr
    ⟨by decide +kernel, odd, by rw [page]⟩
  exact ⟨panicked, (leaves _ panicked).2.2,
    fun panic written => ((onlyThen panic).mp written).1 rfl⟩

end ExecMemory
