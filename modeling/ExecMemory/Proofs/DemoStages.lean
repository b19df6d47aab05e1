import ExecMemory.Demo
import ExecMemory.Proofs.CallLog
import ExecMemory.Proofs.Execution
import ExecMemory.Proofs.LastError
import ExecMemory.Proofs.StoreRefinement
import Mathlib.Algebra.Group.Nat.Defs

/-!
# The stages of the demonstration

The program works in two stages (`Demo.program_eq`). Each maps memory, makes it executable, calls
the code in it and gives the memory back.

* `SysCall.Meets` says that a call went as the plans say.
* `Demo.Stage.Ends` lists the ways in which a stage can end, with the calls it has made and the host
  it leaves.
* `Demo.stage_ends` shows that there are no others, whatever is planned.
-/

namespace ExecMemory

/-! ## The last error after a success -/

/-- The last error after something was traced. -/
def Logging.traced (logging : Logging) (errno : Errno) : Errno :=
  if logging.shows .trace then logging.clobber.getD errno else errno

theorem Logging.traced_traced (logging : Logging) (errno : Errno) :
    logging.traced (logging.traced errno) = logging.traced errno := by
  unfold traced
  cases logging.shows .trace with
  | false => rfl
  | true => cases logging.clobber <;> rfl

theorem Op.leaves_store {logging : Logging} {context : Context} {host : Host} {start length : Nat}
    {content : Nat → UInt8} {memory : Memory} (same : context.host = host)
    (written : host.memory.write? start length content = some memory) :
    Leaves context.lastError (store start length content) logging context (.ok ())
      { host with memory } [] := by
  refine ⟨context.records, ?_⟩
  rw [exec_store, same, written, List.append_nil]

namespace Mapping

open Op

variable {logging : Logging} {context : Context} {before host : Host}
  {size length address value : UInt64}

theorem leaves_alloc (same : context.host = before)
    (rounds : mappingLength size before.pageSize = .ok (some length))
    (called : before.call (.map length .readWrite) = (.ok address, host)) (notNull : address ≠ 0) :
    Leaves (logging.traced context.lastError) (alloc size) logging context (.ok address) host
      [⟨.map length .readWrite, .ok address⟩] := by
  refine (Region.leaves_length same rounds).bind fun _ same first => ?_
  refine (leaves_sysCall same called).bind fun _ same second => ?_
  simp only [if_neg notNull]
  refine (leaves_emit same (.mapped length address)).bind fun _ same third => ?_
  rw [← first, ← second]
  change _ = logging.traced _ at third
  rw [← third]
  exact leaves_pure same address

/-- A refusal leaves the last error as it found it. -/
theorem leaves_refused {α : Type} (same : context.host = host) (kind : CallKind)
    (address length : UInt64) :
    Leaves context.lastError (refused kind address length : Op α) logging context
      (.error (.error (classify kind context.lastError))) host [] := by
  obtain ⟨_, records, ran⟩ :=
    @ends_emit logging context host same (.refused kind length address context.lastError)
  refine ⟨records, ?_⟩
  rw [exec_refused, ran]

/-- A null address is reported with the last error there was. -/
theorem leaves_alloc_null (same : context.host = before)
    (rounds : mappingLength size before.pageSize = .ok (some length))
    (called : before.call (.map length .readWrite) = (.ok 0, host)) :
    Leaves context.lastError (alloc size) logging context
      (.error (.error (.outOfMemory context.lastError))) host
      [⟨.map length .readWrite, .ok 0⟩] := by
  refine (Region.leaves_length same rounds).bind fun _ same first => ?_
  refine (leaves_sysCall same called).bind fun _ same second => ?_
  rw [← first, ← second]
  exact leaves_refused same .map 0 length

theorem leaves_makeExecutable (same : context.host = before)
    (rounds : mappingLength size before.pageSize = .ok (some length))
    (called : before.call (.protect address length .readExec) = (.ok value, host)) :
    Leaves (logging.traced context.lastError) (makeExecutable address size) logging context
      (.ok ()) host [⟨.protect address length .readExec, .ok value⟩] := by
  refine (Region.leaves_length same rounds).bind fun _ same first => ?_
  refine (leaves_pure same ()).bind fun _ same second => ?_
  refine (Region.leaves_length same rounds).bind fun _ same third => ?_
  refine (leaves_sysCall same called).bind fun _ same fourth => ?_
  rw [← first, ← second, ← third, ← fourth]
  exact leaves_emit same (.reprotected length address .readExec)

theorem leaves_release (same : context.host = before)
    (rounds : mappingLength size before.pageSize = .ok (some length))
    (called : before.call (.unmap address length) = (.ok value, host)) :
    Leaves (logging.traced context.lastError) (release address size) logging context (.ok ()) host
      [⟨.unmap address length, .ok value⟩] := by
  refine (Region.leaves_length same rounds).bind fun _ same first => ?_
  refine (leaves_sysCall same called).bind fun _ same second => ?_
  rw [← first, ← second]
  exact leaves_emit same (.unmapped length address)

end Mapping

namespace Region

open Op

variable {logging : Logging} {context : Context} {code : List UInt8} {length base value : UInt64}
  {mapped later : Host} {memory : Memory}

theorem leaves_write_code (fits : code.length < UInt64.size) (same : context.host = mapped)
    (written : mapped.memory.write? base.toNat code.length (byteAt code) = some memory) :
    Leaves context.lastError ((forCode base code).write 0 code) logging context (.ok ())
      { mapped with memory } [] := by
  rw [Region.write_eq]
  refine (leaves_pure same ()).bind fun _ same left => ?_
  have inside := (zero_add_length_le_iff code).mpr fits
  rw [← left, if_pos inside]
  exact leaves_store same written

theorem leaves_ofCode_compiled
    (rounds : mappingLength (.ofNat code.length) context.host.pageSize = .ok (some length))
    (called : context.host.call (.map length .readWrite) = (.ok base, mapped)) (notNull : base ≠ 0)
    (fits : code.length < UInt64.size)
    (written : mapped.memory.write? base.toNat code.length (byteAt code) = some memory)
    (changed : { mapped with memory }.call (.protect base length .readExec) = (.ok value, later)) :
    Leaves (logging.traced context.lastError) (ofCode code) logging context
      (.ok ⟨base, .ofNat code.length, .executable⟩) later
      [⟨.map length .readWrite, .ok base⟩, ⟨.protect base length .readExec, .ok value⟩] := by
  have rounds' := rounds_after_map rounds called
  have allocated : Leaves (logging.traced context.lastError) (allocate (.ofNat code.length)) logging
      context (.ok (forCode base code)) mapped [⟨.map length .readWrite, .ok base⟩] := by
    refine (Mapping.leaves_alloc rfl rounds called notNull).bind fun _ same left => ?_
    rw [← left]
    exact leaves_pure same (forCode base code)
  refine allocated.bind fun now same first => ?_
  have finished : Leaves (logging.traced (logging.traced context.lastError))
      (do (forCode base code).write 0 code; (forCode base code).makeExecutable) logging now
      (.ok ⟨base, .ofNat code.length, .executable⟩) later
      [⟨.protect base length .readExec, .ok value⟩] := by
    rw [← first]
    refine (leaves_write_code fits same written).bind fun _ same second => ?_
    refine (leaves_pure same ()).bind fun _ same third => ?_
    refine (Mapping.leaves_makeExecutable same rounds' changed).bind fun _ same fourth => ?_
    rw [← second, ← third, ← fourth]
    exact leaves_pure same _
  refine finished.attempt.bind fun _ same second => ?_
  rw [← Logging.traced_traced, ← second]
  exact leaves_pure same _

end Region

namespace Demo

open Op

/-! ## The program in two stages -/

/-- Makes a function, uses it, and gives its memory back. -/
def stage (name : String) (code : List Instr) (use : UInt64 → DemoM Unit) : DemoM Unit := do
  let region ← .op (compile name code)
  let address ← .op (entry region)
  use address
  .op region.free

/-- What the program does with the function that returns a constant. -/
def useNumber (address : UInt64) : DemoM Unit := do
  let result ← .op (callCode address 0 0)
  .print ("ret_number() = " ++ toString result)

/-- What the program does with the function that adds. -/
def useAdd (address : UInt64) : DemoM Unit := do
  let result ← .op (callCode address 1 2)
  .print ("add(1, 2) = " ++ toString result)
  let result ← .op (callCode address 314159265 (-256))
  .print ("add(314159265, -256) = " ++ toString result)

theorem program_eq :
    program = (stage "ret_number" retNumber useNumber >>= fun _ => stage "add" add useAdd) := by
  simp only [program, stage, useNumber, useAdd, bind_assoc]

section Stage

variable {logging : Logging} {context : Context} {lines printed : List String} {name : String}
  {code : List Instr} {use : UInt64 → DemoM Unit} {host after : Host} {calls more : List SysCall}

theorem exec_op {α : Type} {op : Op α} {result : Except Stop α} {later : Context}
    (ran : op.exec logging context = (result, later)) :
    (DemoM.op op).exec logging (context, lines) = (result, later, lines) := by
  unfold DemoM.op
  rw [exec_ofOp, ran]
  cases result <;> rfl

/-- A function that cannot be made ends the stage. -/
theorem exec_stage_error {error : Error}
    (failed : Ends (Region.ofCode (encodeAll code)) logging context (.error (.error error)) host
      calls) :
    ∃ later : Context, (stage name code use).exec logging (context, lines) =
        (.error (.error error), later, lines) ∧
      later.host = host ∧ later.calls = context.calls ++ calls := by
  have compiled : Ends (compile name code) logging context (.error (.error error)) host calls := by
    rw [← List.append_nil calls]
    refine failed.attempt.bind fun _ same => ?_
    rw [← List.append_nil []]
    exact (ends_emit same _).bind fun _ same => ends_throw same _
  obtain ⟨lastError, records, ran⟩ := compiled
  refine ⟨⟨host, lastError, context.calls ++ calls, records⟩, ?_, rfl, rfl⟩
  unfold stage
  rw [Effect.exec_bind, exec_op ran]

/-- A function that was made is used, and then its memory is given back or not. -/
theorem exec_stage {base size : UInt64} {number errno : Errno} {result : Except Stop Unit}
    (built : Leaves number (Region.ofCode (encodeAll code)) logging context
      (.ok ⟨base, size, .executable⟩) host calls)
    (uses : ∀ now : Context, now.host = host →
      (use base).exec logging (now, lines) = (.ok (), now, lines ++ printed))
    (freed : ∀ now : Context, now.host = host → now.lastError = number →
      Leaves errno (Mapping.release base size) logging now result after more) :
    ∃ later : Context,
      (stage name code use).exec logging (context, lines) = (result, later, lines ++ printed) ∧
      later.host = after ∧ later.calls = context.calls ++ (calls ++ more) ∧
        later.lastError = errno := by
  have compiled : Leaves number (compile name code) logging context (.ok ⟨base, size, .executable⟩)
      host calls := by
    rw [← List.append_nil calls]
    refine built.attempt.bind fun _ same left => ?_
    rw [← left]
    exact leaves_pure same _
  obtain ⟨records, ran⟩ := compiled
  obtain ⟨records', ran'⟩ := freed ⟨host, number, context.calls ++ calls, records⟩ rfl rfl
  refine ⟨⟨after, errno, context.calls ++ calls ++ more, records'⟩, ?_, rfl,
    List.append_assoc _ _ _, rfl⟩
  unfold stage
  rw [Effect.exec_bind, exec_op ran]
  show Effect.exec (use base >>= fun _ => DemoM.op (Mapping.release base size)) logging _ = _
  rw [Effect.exec_bind, uses _ rfl]
  exact exec_op ran'

end Stage

/-! ## The host before and after a stage -/

/-- Nothing is mapped, no fault will change a length, and there is room for more. -/
structure Vacant (host : Host) : Prop where
  empty : host.memory = .empty
  plain : host.Plain
  aligned : host.cursor % placement = 0
  near : host.cursor ≤ 0x400000

/-- The memory consists of the pages of one span, all with the same access. -/
def Occupies (memory : Memory) (span : Span) (perms : Perms) : Prop :=
  ∀ n, memory.perms? n = if n ∈ span then some perms else none

section Host

variable {host later : Host} {length base : UInt64} {perms : Perms} {memory : Memory} {span : Span}

theorem Vacant.ready (vacant : Vacant host) : host.Ready where
  plain := vacant.plain
  cursor_mod := vacant.aligned
  cursor_le := by
    have near := vacant.near
    rw [toNat_addressLimit]
    unfold mapBase
    omega

/-- A length of a few pages can be mapped, and it lies below the limit. -/
theorem Vacant.lies (vacant : Vacant host) (pos : 0 < length.toNat)
    (small : length.toNat ≤ 0x200000) :
    Host.Addressable length ∧ Lies (.ofNat (mapBase + host.cursor)) length := by
  have whole : (wholePages length).toNat = (length.toNat + 4095) / 4096 * 4096 := by
    unfold wholePages pageBytes
    refine UInt64.toNat_ofNat_of_lt' ?_
    show _ < 2 ^ 64
    omega
  have nonempty : wholePages length ≠ 0 := by
    intro zero
    rw [zero] at whole
    change 0 = _ at whole
    omega
  have fits : Host.Addressable length := by
    refine ⟨nonempty, ?_⟩
    rw [UInt64.le_iff_toNat_le, toNat_addressLimit, whole]
    omega
  refine ⟨fits, vacant.ready.pageRange fits, ?_⟩
  have near := vacant.near
  rw [vacant.ready.toNat_next, whole, toNat_addressLimit]
  unfold mapBase
  omega

theorem occupies_mapPages (empty : memory = .empty) (span : Span) (perms : Perms) :
    Occupies (memory.mapPages span perms) span perms := by
  intro n
  rw [empty, Memory.perms?_mapPages]
  rfl

theorem Occupies.protectPages (occupies : Occupies memory span perms) (other : Perms) :
    Occupies (memory.protectPages span other) span other := by
  intro n
  rw [Memory.perms?_protectPages, occupies n]
  split
  · rfl
  · rfl

theorem Occupies.write {written : Memory} {start count : Nat} {content : Nat → UInt8}
    (occupies : Occupies memory span perms)
    (wrote : memory.write? start count content = some written) :
    Occupies written span perms := by
  intro n
  rw [Memory.perms?_write? wrote]
  exact occupies n

theorem Occupies.mapped (occupies : Occupies memory span perms) :
    ∀ n ∈ span, (memory.page? n).isSome := by
  intro n inside
  exact Memory.isSome_page?_of_perms? ((occupies n).trans (if_pos inside))

/-- Giving back all there is leaves nothing. -/
theorem Occupies.unmapPages (occupies : Occupies memory span perms) :
    memory.unmapPages span = .empty := by
  ext1
  funext n
  rw [Memory.page?_unmapPages]
  split
  · rfl
  · rename_i outside
    exact Option.map_eq_none_iff.mp ((occupies n).trans (if_neg outside))

end Host

end Demo

/-! ## Calls and plans -/

/-- The fault that a call met, if any. -/
def SysCall.fault? (call : SysCall) : Option Fault :=
  match call.reply with
  | .error errno => some (.refuse call.request.kind errno)
  | .ok _ => if call.succeeded then none else some .null

theorem SysCall.fault?_of_succeeded {call : SysCall} (succeeded : call.succeeded = true) :
    call.fault? = none := by
  obtain ⟨request, errno | value⟩ := call
  · rw [succeeded_error] at succeeded
    cases succeeded
  · exact if_pos succeeded

/-- The number that a failed call is reported with: its own, or the last error if the host gave
none. -/
def reportedErrno (lastError : Errno) : Reply → Errno
  | .error errno => errno
  | .ok _ => lastError

/-- The call went as the plans say, and these plans remain. -/
def SysCall.Meets (call : SysCall) (plans rest : List Plan) : Prop :=
  Plan.take call.request.kind plans = (call.fault?, rest)

/-- The faults that calls of these kinds meet one after the other. -/
def Plan.faultsFor : List Plan → List CallKind → List (Option Fault)
  | _, [] => []
  | plans, kind :: later => (take kind plans).1 :: faultsFor (take kind plans).2 later

theorem Plan.refuse_of_take {kind other : CallKind} {plans rest : List Plan} {errno : Errno}
    (taken : take kind plans = (some (.refuse other errno), rest)) :
    take kind plans = (some (.refuse kind errno), rest) := by
  have same : other = kind := kind_of_take (congrArg Prod.fst taken)
  rw [taken, same]

/-- Apart from the memory and the plans nothing changes. -/
theorem Granted.keeps {host later : Host} {kind : CallKind} {granted : Memory} {reply : Reply}
    (answered : Granted host kind granted reply later) (plain : host.Plain) :
    later.Plain ∧ later.cursor = host.cursor ∧ later.pageSize = host.pageSize := by
  cases answered with
  | granted taken => exact ⟨plain.take taken, rfl, rfl⟩
  | refused taken => exact ⟨plain.take taken, rfl, rfl⟩

theorem Granted.memory_ok {host later : Host} {kind : CallKind} {granted : Memory} {value : UInt64}
    (answered : Granted host kind granted (.ok value) later) : later.memory = granted := by
  cases answered
  rfl

theorem Granted.memory_error {host later : Host} {kind : CallKind} {granted : Memory}
    {errno : Errno} (answered : Granted host kind granted (.error errno) later) :
    later.memory = host.memory := by
  cases answered
  rfl

theorem Granted.meets {host later : Host} {granted : Memory} {reply : Reply} {request : Request}
    (answered : Granted host request.kind granted reply later) (notMap : request.kind ≠ .map) :
    SysCall.Meets ⟨request, reply⟩ host.plans later.plans := by
  cases answered with
  | granted taken =>
      cases request with
      | map => exact absurd rfl notMap
      | protect | unmap => exact taken
  | refused taken => exact Plan.refuse_of_take taken

/-- How a request for fresh memory can turn out, if there is room: it goes to the cursor, or a
planned fault spoils it and nothing is mapped. -/
theorem Host.Ready.meets_map {host later : Host} {length : UInt64} {perms : Perms} {reply : Reply}
    (ready : host.Ready) (fits : Host.Addressable length)
    (called : host.call (.map length perms) = (reply, later)) :
    SysCall.Meets ⟨.map length perms, reply⟩ host.plans later.plans ∧
      (SysCall.succeeded ⟨.map length perms, reply⟩ = false ∧ later.memory = host.memory ∨
        reply = .ok (.ofNat (mapBase + host.cursor)) ∧ UInt64.ofNat (mapBase + host.cursor) ≠ 0 ∧
          later = { host with plans := later.plans }.mapped length perms) := by
  cases reply with
  | error errno =>
      obtain ⟨fault, plans, taken, rfl, ⟨kind, rfl⟩ | ⟨_, unfit, _⟩⟩ := ready.call_map_error called
      · exact ⟨Plan.refuse_of_take taken, .inl ⟨rfl, rfl⟩⟩
      · exact absurd fits unfit
  | ok base =>
      by_cases null : base = 0
      · subst null
        obtain ⟨plans, taken, rfl⟩ := ready.call_map_null called
        exact ⟨taken, .inl ⟨rfl, rfl⟩⟩
      · obtain ⟨rfl, _, plans, taken, rfl⟩ := ready.call_map called null
        refine ⟨?_, .inr ⟨rfl, null, rfl⟩⟩
        have succeeded : SysCall.succeeded
            ⟨.map length perms, .ok (.ofNat (mapBase + host.cursor))⟩ = true :=
          bne_iff_ne.mpr null
        unfold SysCall.Meets
        rw [SysCall.fault?_of_succeeded succeeded]
        exact taken

namespace Demo

/-! ## One stage -/

/-- Where a stage has its memory, how much of it, and what it prints. -/
structure Stage where
  base : UInt64
  length : UInt64
  lines : List String

namespace Stage

/-- The request for memory, as it is answered. -/
def maps (stage : Stage) (reply : Reply) : SysCall := ⟨.map stage.length .readWrite, reply⟩

/-- The change of access, as it is answered. -/
def protects (stage : Stage) (reply : Reply) : SysCall :=
  ⟨.protect stage.base stage.length .readExec, reply⟩

/-- The release, as it is answered. -/
def unmaps (stage : Stage) (reply : Reply) : SysCall := ⟨.unmap stage.base stage.length, reply⟩

/-- What a stage asks of the host if nothing fails. -/
def requests (stage : Stage) : List Request :=
  [.map stage.length .readWrite, .protect stage.base stage.length .readExec,
    .unmap stage.base stage.length]

/-- How a stage can end: at each of its three host calls, or after them. -/
inductive Ends (logging : Logging) (stage : Stage) (before : Context) :
    Except Stop Unit → Context → List String → Prop
  | unmapped {reply : Reply} {later : Context}
      (failed : (stage.maps reply).succeeded = false)
      (meets : (stage.maps reply).Meets before.host.plans later.host.plans)
      (calls : later.calls = before.calls ++ [stage.maps reply])
      (empty : later.host.memory = .empty) :
      Ends logging stage before
        (.error (.error (.outOfMemory (reportedErrno before.lastError reply)))) later []
  | unprotected {errno : Errno} {reply : Reply} {first second : List Plan} {later : Context}
      (notNull : stage.base ≠ 0)
      (mapped : (stage.maps (.ok stage.base)).Meets before.host.plans first)
      (refused : (stage.protects (.error errno)).Meets first second)
      (cleaned : (stage.unmaps reply).Meets second later.host.plans)
      (calls : later.calls =
        before.calls ++ [stage.maps (.ok stage.base), stage.protects (.error errno),
          stage.unmaps reply])
      (empty : (stage.unmaps reply).succeeded = true → later.host.memory = .empty) :
      Ends logging stage before (.error (.error (Mapping.classify .protect errno))) later []
  | unreleased {value : UInt64} {errno : Errno} {first second : List Plan} {later : Context}
      (notNull : stage.base ≠ 0)
      (mapped : (stage.maps (.ok stage.base)).Meets before.host.plans first)
      (changed : (stage.protects (.ok value)).Meets first second)
      (refused : (stage.unmaps (.error errno)).Meets second later.host.plans)
      (calls : later.calls =
        before.calls ++ [stage.maps (.ok stage.base), stage.protects (.ok value),
          stage.unmaps (.error errno)]) :
      Ends logging stage before (.error (.error (.invalidRegion errno))) later stage.lines
  | released {value answer : UInt64} {first second : List Plan} {later : Context}
      (notNull : stage.base ≠ 0)
      (mapped : (stage.maps (.ok stage.base)).Meets before.host.plans first)
      (changed : (stage.protects (.ok value)).Meets first second)
      (taken : (stage.unmaps (.ok answer)).Meets second later.host.plans)
      (calls : later.calls =
        before.calls ++ [stage.maps (.ok stage.base), stage.protects (.ok value),
          stage.unmaps (.ok answer)])
      (empty : later.host.memory = .empty) (plain : later.host.Plain)
      (cursor : later.host.cursor = before.host.cursor + Host.stride stage.length)
      (pageSize : later.host.pageSize = before.host.pageSize)
      (number : later.lastError = logging.traced before.lastError) :
      Ends logging stage before (.ok ()) later stage.lines

end Stage

/-- The length of the memory for a short piece of code, at a page size of at most one mebibyte. -/
theorem length_of_short {count : Nat} {page : UInt64} (power : page.toNat.isPowerOfTwo)
    (small : page.toNat ≤ 2 ^ 20) (short : count ≤ 2 ^ 20) :
    mappingLength (.ofNat count) page = .ok (some (mappedBytes (.ofNat count) page)) ∧
      count ≤ (mappedBytes (.ofNat count) page).toNat ∧
      0 < (mappedBytes (.ofNat count) page).toNat ∧
      (mappedBytes (.ofNat count) page).toNat ≤ 0x200000 := by
  have size : (UInt64.ofNat count).toNat = count := by
    refine UInt64.toNat_ofNat_of_lt' ?_
    show _ < 2 ^ 64
    omega
  have pos := pos_of_isPowerOfTwo power
  have least : leastMultiple count page.toNat ≤ count + (page.toNat - 1) := Nat.div_mul_le_self _ _
  have fits : leastMultiple (UInt64.ofNat count).toNat page.toNat < UInt64.size := by
    rw [size]
    show _ < 2 ^ 64
    omega
  have rounds : mappingLength (.ofNat count) page =
      .ok (some (mappedBytes (.ofNat count) page)) := by
    rw [mappingLength_eq _ power, if_pos fits]
  have covers := (mappingLength_eq_some power rounds).2
  rw [size] at covers
  refine ⟨rounds, covers, ?_, ?_⟩
  · rw [toNat_mappedBytes fits]
    omega
  · rw [toNat_mappedBytes fits, size]
    omega

/-- Code that was written into memory can be read there. -/
theorem reads_of_write {memory written : Memory} {start : Nat} {code : List UInt8}
    (wrote : memory.write? start code.length (byteAt code) = some written) :
    Reads written.byte? start code := by
  intro i byte found
  obtain ⟨inside, rfl⟩ := List.getElem?_eq_some_iff.mp found
  rw [Memory.byte?_of_write? wrote (Nat.le_add_right start i) (by omega), Nat.add_sub_cancel_left]
  simp [byteAt, inside]

section Ending

variable {logging : Logging} {context : Context} {lines : List String} {name : String}
  {code : List Instr} {use : UInt64 → DemoM Unit} {stage : Stage} {mapped : Host}

/-- No memory for the code. -/
theorem ends_ofCode_unmapped {code : List UInt8} {reply : Reply}
    (rounds : mappingLength (.ofNat code.length) context.host.pageSize = .ok (some stage.length))
    (called : context.host.call (.map stage.length .readWrite) = (reply, mapped))
    (failed : (stage.maps reply).succeeded = false) :
    Op.Ends (Region.ofCode code) logging context
      (.error (.error (.outOfMemory (reportedErrno context.lastError reply)))) mapped
      [stage.maps reply] := by
  cases reply with
  | error errno => exact (Mapping.ends_alloc_refused rfl rounds called).bind_error.bind_error
  | ok base =>
      have null : base = 0 := bne_eq_false_iff_eq.mp failed
      subst null
      obtain ⟨records, ran⟩ := @Mapping.leaves_alloc_null logging context _ _ _ _ rfl rounds called
      have allocated : Op.Ends (Mapping.alloc (.ofNat code.length)) logging context
          (.error (.error (.outOfMemory context.lastError))) mapped [stage.maps (.ok 0)] :=
            ⟨_, records, ran⟩
      exact allocated.bind_error.bind_error

/-- The code of a stage is in executable memory, and there is no other memory. -/
structure Running (logging : Logging) (context : Context) (stage : Stage) (code : List UInt8)
    (value : UInt64) (host : Host) : Prop where
  built : Op.Leaves (logging.traced context.lastError) (Region.ofCode code) logging context
    (.ok ⟨stage.base, .ofNat code.length, .executable⟩) host
    [stage.maps (.ok stage.base), stage.protects (.ok value)]
  executable : Executable host.memory stage.base code
  occupies : Occupies host.memory (.ofRange stage.base stage.length) .readExec
  plain : host.Plain
  cursor : host.cursor = context.host.cursor + Host.stride stage.length
  pageSize : host.pageSize = context.host.pageSize

/-- The second half of a stage: the code is used, and the memory is given back or not. -/
theorem Running.ends {value : UInt64} {host : Host} {first : List Plan}
    (running : Running logging context stage (encodeAll code) value host)
    (lies : Lies stage.base stage.length)
    (rounds : mappingLength (.ofNat (encodeAll code).length) context.host.pageSize =
      .ok (some stage.length))
    (uses : ∀ now : Context, Executable now.host.memory stage.base (encodeAll code) →
      (use stage.base).exec logging (now, lines) = (.ok (), now, lines ++ stage.lines))
    (notNull : stage.base ≠ 0)
    (mapped : (stage.maps (.ok stage.base)).Meets context.host.plans first)
    (changed : (stage.protects (.ok value)).Meets first host.plans) :
    ∃ result later shown, (Demo.stage name code use).exec logging (context, lines) =
        (result, later, lines ++ shown) ∧ stage.Ends logging context result later shown := by
  have used : ∀ now : Context, now.host = host →
      (use stage.base).exec logging (now, lines) = (.ok (), now, lines ++ stage.lines) := by
    rintro now rfl
    exact uses now running.executable
  rw [← running.pageSize] at rounds
  rcases freed : host.call (.unmap stage.base stage.length) with ⟨reply, after⟩
  have answered := lies.call_unmap running.plain freed
  have meets := @Granted.meets _ _ _ _ (.unmap stage.base stage.length) answered nofun
  obtain ⟨plain, cursor, pageSize⟩ := answered.keeps running.plain
  cases reply with
  | error errno =>
      have released : ∀ now : Context, now.host = host →
          now.lastError = logging.traced context.lastError →
          Op.Leaves errno (Mapping.release stage.base (.ofNat (encodeAll code).length)) logging now
            (.error (.error (.invalidRegion errno))) after [stage.unmaps (.error errno)] := by
        intro now same _
        exact (Mapping.ends_release_refused same rounds freed).leaves_errno
          (Mapping.agrees_release _ _) rfl
      obtain ⟨later, ran, rfl, calls, _⟩ := exec_stage running.built used released
      exact ⟨_, later, _, ran, .unreleased notNull mapped changed meets calls⟩
  | ok answer =>
      have released : ∀ now : Context, now.host = host →
          now.lastError = logging.traced context.lastError →
          Op.Leaves (logging.traced context.lastError)
            (Mapping.release stage.base (.ofNat (encodeAll code).length)) logging now (.ok ()) after
            [stage.unmaps (.ok answer)] := by
        intro now same left
        rw [← Logging.traced_traced, ← left]
        exact Mapping.leaves_release same rounds freed
      obtain ⟨later, ran, rfl, calls, number⟩ := exec_stage running.built used released
      have empty : later.host.memory = .empty := by
        rw [answered.memory_ok]
        exact running.occupies.unmapPages
      exact ⟨_, later, _, ran, .released notNull mapped changed meets calls empty plain
        (cursor.trans running.cursor) (pageSize.trans running.pageSize) number⟩

/-- **A stage** ends at its first host call that fails, or it leaves the host as vacant as it
was. -/
theorem stage_ends (vacant : Vacant context.host) (power : context.host.pageSize.toNat.isPowerOfTwo)
    (small : context.host.pageSize.toNat ≤ 2 ^ 20) (short : (encodeAll code).length ≤ 2 ^ 20)
    (placed : stage.base = .ofNat (mapBase + context.host.cursor))
    (sized : stage.length = mappedBytes (.ofNat (encodeAll code).length) context.host.pageSize)
    (uses : ∀ now : Context, Executable now.host.memory stage.base (encodeAll code) →
      (use stage.base).exec logging (now, lines) = (.ok (), now, lines ++ stage.lines)) :
    ∃ result later shown, (Demo.stage name code use).exec logging (context, lines) =
        (result, later, lines ++ shown) ∧ stage.Ends logging context result later shown := by
  obtain ⟨rounds, covers, pos, atMost⟩ := length_of_short power small short
  rw [← sized] at rounds covers pos atMost
  obtain ⟨fits, lies⟩ := vacant.lies pos atMost
  rw [← placed] at lies
  have ready := vacant.ready
  have word : (encodeAll code).length < UInt64.size := by
    show _ < 2 ^ 64
    omega
  rcases called : context.host.call (.map stage.length .readWrite) with ⟨reply, mapped⟩
  obtain ⟨meets, ⟨failed, unchanged⟩ | ⟨rfl, notNull, moved⟩⟩ := ready.meets_map fits called
  · obtain ⟨later, ran, rfl, calls⟩ :=
      @exec_stage_error logging context lines name code use _ _ _
        (ends_ofCode_unmapped rounds called failed)
    refine ⟨_, later, [], ?_, .unmapped failed meets calls (unchanged.trans vacant.empty)⟩
    rw [List.append_nil]
    exact ran
  · rw [← placed] at called notNull meets
    have plain : mapped.Plain := vacant.plain.take meets
    obtain ⟨memory, written⟩ := Option.isSome_iff_exists.mp
      (ready.mapped_write called notNull covers (byteAt (encodeAll code)))
    have occupies : Occupies memory (.ofRange stage.base stage.length) .readWrite := by
      refine Occupies.write ?_ written
      rw [moved, placed]
      exact occupies_mapPages vacant.empty _ _
    rcases changed : { mapped with memory }.call (.protect stage.base stage.length .readExec) with
      ⟨reply, host⟩
    have answered :=
      @Lies.call_protect _ _ { mapped with memory } _ _ _ lies plain occupies.mapped changed
    have meets' :=
      @Granted.meets _ _ _ _ (.protect stage.base stage.length .readExec) answered nofun
    obtain ⟨plain', cursor, pageSize⟩ := answered.keeps plain
    cases reply with
    | error errno =>
        rcases cleaned : host.call (.unmap stage.base stage.length) with ⟨reply, after⟩
        have released := lies.call_unmap plain' cleaned
        have meets'' := @Granted.meets _ _ _ _ (.unmap stage.base stage.length) released nofun
        obtain ⟨later, ran, rfl, calls⟩ :=
          @exec_stage_error logging context lines name code use _ _ _
          (Region.ends_ofCode_unprotected logging rfl rounds called notNull word written changed
            cleaned)
        refine ⟨_, later, [], ?_, .unprotected notNull meets meets' meets'' calls fun succeeded =>
          ?_⟩
        · rw [List.append_nil]
          exact ran
        · cases reply with
          | error refused => cases succeeded
          | ok value =>
              rw [released.memory_ok, answered.memory_error]
              exact occupies.unmapPages
    | ok value =>
        have running : Running logging context stage (encodeAll code) value host := {
          built := Region.leaves_ofCode_compiled rounds called notNull word written changed
          executable := Executable.of_protect changed covers (reads_of_write written)
          occupies := by
            rw [answered.memory_ok]
            exact occupies.protectPages .readExec
          plain := plain'
          cursor := by rw [cursor, moved]; rfl
          pageSize := pageSize.trans (Host.call_extends called).pageSize }
        exact running.ends lies rounds uses notNull meets meets'

end Ending

end Demo

end ExecMemory
