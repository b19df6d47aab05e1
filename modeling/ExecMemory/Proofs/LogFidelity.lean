import ExecMemory.Proofs.LogFormat
import ExecMemory.Proofs.Panics

/-!
# The log tells what was asked of the host

With the least severe level shown, the log of a step can be read as the list of its host calls.

* `Answer.Faithful` is the whole relation between the calls and the records of a step, with its
  exceptions: a size without a rounding, and the warning of a region that was dropped and not given
  back. How each record reads is part of it.
* `faithful_call` follows the calls of the library through their jobs.
* `log_is_faithful` settles it for every step of every script.
-/

namespace ExecMemory

/-- A warning that a region was not given back, and the record that says why. -/
inductive Warns : Record → Record → Prop
  | refused {length base : UInt64} {errno : Errno} :
      Warns (.refused .unmap length base errno) (.notReleased base (.invalidRegion errno))
  | unrounded {size base : UInt64} : Warns (.cannotRound size) (.notReleased base .tooLarge)

theorem Warns.target {reason warning : Record} (warns : Warns reason warning) :
    warning.target = "jit_shim::region" := by
  cases warns <;> rfl

theorem Warns.formatted {reason warning : Record} (warns : Warns reason warning) :
    warning.Formatted := by
  cases warns with
  | @refused length base errno =>
      show Record.ReadsAs _ .warn "jit_shim::region" ("failed to release JIT region at " ++
        Text.hex base ++ ": " ++ ("invalid region: " ++ errno.message))
      rw [Text.hex_eq_numeral]
      exact .notReleased errno.readsAs_message
  | @unrounded size base =>
      show Record.ReadsAs _ .warn "jit_shim::region"
        ("failed to release JIT region at " ++ Text.hex base ++ ": " ++
          "requested size is too large")
      rw [Text.hex_eq_numeral]
      exact .notReleasable

/-! ## What a step has to tell -/

/-- The call drops a region: the one it is told to discard, or the one that it cannot finish. -/
def Call.drops : Call → Bool
  | .region _ .discard | .region _ (.ofCode _) => true
  | _ => false

/-- The call is one of the C interface. -/
def Call.viaC : Call → Bool
  | .c _ => true
  | _ => false

theorem Call.drops_of_viaC {call : Call} (viaC : call.viaC = true) : call.drops = false := by
  cases call with
  | c call => rfl
  | pageSize | lastError | setLastError errno | mapping call | region id call => cases viaC

/-- The call has to compute a length from a size that has no rounding. -/
def Call.CannotRound (call : Call) (machine : Machine) (size : UInt64) : Prop :=
  call.roundedSize? machine.slots = some size ∧ mappingLength size machine.host.pageSize = .ok none

namespace Answer

/-- The records about host calls. -/
def hostRecords (answer : Answer) : List Record :=
  answer.records.filter fun record => record.target = "jit_shim::virtual_memory"

/-- The records about regions. -/
def regionRecords (answer : Answer) : List Record :=
  answer.records.filter fun record => record.target = "jit_shim::region"

/-- A region was dropped, and the host did not take its memory back or could not be asked to. -/
def DropFailed (answer : Answer) (machine : Machine) (call : Call) : Prop :=
  (call.drops = true ∧ ∃ made ∈ answer.calls, made.request.kind = .unmap ∧ made.succeeded = false) ∨
    ∃ id size, call = .region id .discard ∧ call.CannotRound machine size

/-- The error that a failed host call led to carries the number. A dropped region leaves it to the
warning what went wrong, and the C interface to the last error; every other call stops with it. -/
def Carries (answer : Answer) (call : Call) (kind : CallKind) (address : UInt64) (errno : Errno) :
    Prop :=
  if call.drops = true ∧ kind = .unmap then
    .notReleased address (Mapping.classify kind errno) ∈ answer.records
  else if call.viaC = true then answer.lastError = errno
  else answer.result = .error (.stop (.error (Mapping.classify kind errno)))

/-- A failed drop is warned of once, right after the record that says why, and nothing else is. -/
def Warned (answer : Answer) (machine : Machine) (call : Call) (host warnings : List Record) :
    Prop :=
  (answer.DropFailed machine call ∧ ∃ reason warning,
      host.getLast? = some reason ∧ Warns reason warning ∧ warning.level = .warn ∧
        warnings = [warning]) ∨
    (¬ answer.DropFailed machine call ∧ warnings = [])

/-- The records of a call are a faithful account of what it asked of the host. -/
structure Faithful (answer : Answer) (machine : Machine) (call : Call) : Prop where
  /-- There are no other records, and warnings come last. -/
  order : answer.records = answer.hostRecords ++ answer.regionRecords
  /-- One record for each host call, in the same order. -/
  logged : (∀ size, ¬ call.CannotRound machine size) →
    List.Forall₂ LoggedAs answer.calls answer.hostRecords ∧
    answer.hostRecords.map Record.level =
      answer.calls.map fun made => if made.succeeded then .trace else .debug
  /-- Without a length there is nothing to ask for. -/
  unrounded : ∀ size, call.CannotRound machine size →
    answer.calls = [] ∧ answer.hostRecords = [.cannotRound size] ∧
      answer.hostRecords.map Record.level = [.debug]
  /-- The number in a record is that of the error it led to. -/
  carried : ∀ kind length address errno, .refused kind length address errno ∈ answer.records →
    answer.Carries call kind address errno
  /-- There is a warning if and only if a drop failed. -/
  warned : answer.Warned machine call answer.hostRecords answer.regionRecords
  /-- Every record has the severity, the source and the wording of its kind. -/
  formatted : ∀ record ∈ answer.records,
    record.ReadsAs record.level record.target record.message

variable {answer : Answer} {machine : Machine} {call : Call} {host warnings : List Record}

theorem records_parts (records : answer.records = host ++ warnings)
    (fromHost : ∀ record ∈ host, record.target = "jit_shim::virtual_memory")
    (fromRegion : ∀ record ∈ warnings, record.target = "jit_shim::region") :
    answer.hostRecords = host ∧ answer.regionRecords = warnings := by
  have different : "jit_shim::region" ≠ "jit_shim::virtual_memory" := by decide
  unfold hostRecords regionRecords
  rw [records, List.filter_append, List.filter_append]
  constructor
  · rw [List.filter_eq_self.mpr fun record member => decide_eq_true (fromHost record member),
      List.filter_eq_nil_iff.mpr fun record member => ?_, List.append_nil]
    rw [decide_eq_true_eq, fromRegion record member]
    exact different
  · rw [List.filter_eq_nil_iff.mpr fun record member => ?_, List.nil_append,
      List.filter_eq_self.mpr fun record member => decide_eq_true (fromRegion record member)]
    rw [decide_eq_true_eq, fromHost record member]
    exact different.symm

theorem Warned.fromRegion (warned : answer.Warned machine call host warnings) :
    ∀ record ∈ warnings, record.target = "jit_shim::region" := by
  intro record member
  obtain ⟨_, reason, warning, _, warns, _, rfl⟩ | ⟨_, rfl⟩ := warned
  · cases List.mem_singleton.mp member
    exact warns.target
  · cases member

theorem Warned.formatted (warned : answer.Warned machine call host warnings) :
    ∀ record ∈ warnings, record.Formatted := by
  intro record member
  obtain ⟨_, reason, warning, _, warns, _, rfl⟩ | ⟨_, rfl⟩ := warned
  · cases List.mem_singleton.mp member
    exact warns.formatted
  · cases member

/-- An account of a call that could compute its length, or computes none. -/
theorem Faithful.of_rounded (host : List Record) (rounds : ∀ size, ¬ call.CannotRound machine size)
    (records : answer.records = host ++ warnings) (logged : List.Forall₂ LoggedAs answer.calls host)
    (carried : ∀ kind length address errno, .refused kind length address errno ∈ host →
      answer.Carries call kind address errno)
    (warned : answer.Warned machine call host warnings) : answer.Faithful machine call := by
  have fromRegion := warned.fromRegion
  obtain ⟨hostPart, regionPart⟩ := records_parts records (LoggedAs.targets logged) fromRegion
  constructor
  case order => rw [hostPart, regionPart, records]
  case logged =>
    intro _
    rw [hostPart]
    exact ⟨logged, LoggedAs.levels logged⟩
  case unrounded => exact fun size cannot => absurd cannot (rounds size)
  case carried =>
    intro kind length address errno member
    rw [records] at member
    rcases List.mem_append.mp member with told | warning
    · exact carried kind length address errno told
    · exact absurd (fromRegion _ warning)
        (show ¬ "jit_shim::virtual_memory" = "jit_shim::region" by decide)
  case warned => rwa [hostPart, regionPart]
  case formatted =>
    intro record member
    rw [records] at member
    rcases List.mem_append.mp member with told | warning
    · obtain ⟨_, _, tells⟩ := LoggedAs.exists_call logged told
      exact tells.formatted
    · exact warned.formatted record warning

/-- An account of a call that could not compute its length. -/
theorem Faithful.of_unrounded {size : UInt64} (cannot : call.CannotRound machine size)
    (calls : answer.calls = []) (records : answer.records = .cannotRound size :: warnings)
    (warned : answer.Warned machine call [.cannotRound size] warnings) :
    answer.Faithful machine call := by
  have fromRegion := warned.fromRegion
  obtain ⟨hostPart, regionPart⟩ := @records_parts answer [.cannotRound size] warnings records
    (fun record member => by cases List.mem_singleton.mp member; rfl) fromRegion
  constructor
  case order => rw [hostPart, regionPart, records]; rfl
  case logged => exact fun rounds => absurd cannot (rounds size)
  case unrounded =>
    intro other same
    cases same.1.symm.trans cannot.1
    exact ⟨calls, hostPart, by rw [hostPart]; rfl⟩
  case carried =>
    intro kind length address errno member
    rw [records] at member
    rcases List.mem_cons.mp member with told | warning
    · cases told
    · exact absurd (fromRegion _ warning)
        (show ¬ "jit_shim::virtual_memory" = "jit_shim::region" by decide)
  case warned => rwa [hostPart, regionPart]
  case formatted =>
    intro record member
    rw [records] at member
    rcases List.mem_cons.mp member with rfl | warning
    · exact Record.formatted_cannotRound size
    · exact warned.formatted record warning

end Answer

/-! ## Calls -/

theorem Call.CannotRound.ne_some {call : Call} {machine : Machine} {size length : UInt64}
    (rounded : call.roundedSize? machine.slots = some size)
    (rounds : mappingLength size machine.host.pageSize = .ok (some length)) (other : UInt64) :
    ¬ call.CannotRound machine other := by
  rintro ⟨same, rounding⟩
  cases same.symm.trans rounded
  rw [rounds] at rounding
  cases rounding

theorem Call.CannotRound.ne_none {call : Call} {machine : Machine}
    (never : call.roundedSize? machine.slots = none) (size : UInt64) :
    ¬ call.CannotRound machine size := by
  rintro ⟨some, _⟩
  rw [never] at some
  cases some

namespace Answer

variable {α : Type} {answer : Answer} {machine : Machine} {call : Call} {inThread : Bool}
  {later : Context} {kind : CallKind} {address size : UInt64}

/-- Nothing was dropped in vain where every release succeeded. -/
theorem not_dropFailed (undiscarded : ∀ id, call ≠ .region id .discard)
    (released : call.drops = true →
      ∀ made ∈ answer.calls, made.request.kind = .unmap → made.succeeded = true) :
    ¬ answer.DropFailed machine call := by
  rintro (⟨drops, made, member, unmaps, failed⟩ | ⟨id, _, discards, _⟩)
  · rw [released drops made member unmaps] at failed
    cases failed
  · exact undiscarded id discards

/-- Nothing was asked of the host, and nothing is told. -/
theorem Faithful.of_quiet (rounds : ∀ size, ¬ call.CannotRound machine size)
    (calls : answer.calls = []) (records : answer.records = []) : answer.Faithful machine call := by
  refine .of_rounded [] rounds records ?_ nofun (.inr ⟨?_, rfl⟩)
  · rw [calls]
    exact .nil
  · rintro (⟨_, made, member, _⟩ | ⟨_, size, _, cannot⟩)
    · rw [calls] at member
      cases member
    · exact rounds size cannot

/-- At most one host call, which is no drop. -/
theorem Faithful.of_logged {result : Except Stop α}
    (rounded : call.roundedSize? machine.slots = some size)
    (undiscarded : ∀ id, call ≠ .region id .discard) (held : call.drops = true → kind ≠ .unmap)
    (logged : Logged kind address size (machine.start inThread) (result, later))
    (calm : ∀ panic, result ≠ .error (.panic panic)) (calls : answer.calls = later.calls)
    (records : answer.records = later.records)
    (carries : ∀ errno, result = .error (.error (Mapping.classify kind errno)) →
      later.lastError = errno →
      answer.Carries call kind address errno) : answer.Faithful machine call := by
  cases logged with
  | @panicked panic => exact absurd rfl (calm panic)
  | unrounded rounding adds =>
      have none : answer.calls = [] := calls.trans adds.calls
      refine .of_unrounded ⟨rounded, rounding⟩ none (records.trans adds.records)
        (.inr ⟨not_dropFailed undiscarded fun _ made member => ?_, rfl⟩)
      rw [none] at member
      cases member
  | @done _ made record _ _ rounds same logged succeeded adds =>
      have one : answer.calls = [made] := calls.trans adds.calls
      refine .of_rounded [record] (Call.CannotRound.ne_some rounded rounds)
        (records.trans adds.records) ?_ ?_
        (.inr ⟨not_dropFailed undiscarded fun _ other member _ => ?_, rfl⟩)
      · rw [one]
        exact .cons logged .nil
      · intro kind length address errno told
        exact absurd (List.mem_singleton.mp told).symm (logged.ne_refused succeeded _ _ _ _)
      · rw [one] at member
        cases List.mem_singleton.mp member
        exact succeeded
  | @failed length made errno _ rounds same logged failed adds number =>
      have one : answer.calls = [made] := calls.trans adds.calls
      refine .of_rounded [.refused kind length address errno]
        (Call.CannotRound.ne_some rounded rounds) (records.trans adds.records) ?_ ?_
        (.inr ⟨not_dropFailed undiscarded fun drops other member unmaps => ?_, rfl⟩)
      · rw [one]
        exact .cons logged .nil
      · intro kind length address errno told
        cases List.mem_singleton.mp told
        exact carries errno rfl number
      · rw [one] at member
        cases List.mem_singleton.mp member
        exact absurd (same.symm.trans unmaps) (held drops)

/-- A region was dropped, after other host calls that are told of and did not release anything. -/
theorem Faithful.of_dropped {region : Region} {between : Context} {made : List SysCall}
    {told : List Record} {length : UInt64} (drops : call.drops = true)
    (rounded : call.roundedSize? machine.slots = some region.size)
    (rounds : mappingLength region.size machine.host.pageSize = .ok (some length))
    (logged : List.Forall₂ LoggedAs made told) (held : ∀ call ∈ made, call.request.kind ≠ .unmap)
    (carried : ∀ kind length address errno, .refused kind length address errno ∈ told →
      answer.Carries call kind address errno)
    (adds : (machine.start inThread).Adds between made told)
    (dropped : region.Dropped between later)
    (calls : answer.calls = later.calls) (records : answer.records = later.records) :
    answer.Faithful machine call := by
  have never := Call.CannotRound.ne_some rounded rounds
  cases dropped with
  | unrounded rounding =>
      rw [adds.pageSize] at rounding
      exact absurd ⟨rounded, rounding⟩ (never region.size)
  | @released _ last record _ _ lastLogged succeeded more =>
      have whole := adds.trans more
      have allCalls : answer.calls = made ++ [last] := calls.trans whole.calls
      have allRecords : answer.records = told ++ [record] ++ [] := by
        rw [List.append_nil]
        exact records.trans whole.records
      refine .of_rounded (told ++ [record]) never allRecords ?_ ?_ (.inr ⟨?_, rfl⟩)
      · rw [allCalls]
        exact List.rel_append logged (.cons lastLogged .nil)
      · intro kind length address errno member
        rcases List.mem_append.mp member with earlier | now
        · exact carried kind length address errno earlier
        · exact absurd (List.mem_singleton.mp now).symm (lastLogged.ne_refused succeeded _ _ _ _)
      · rintro (⟨_, failed, member, unmaps, refused⟩ | ⟨_, size, _, cannot⟩)
        · rw [allCalls] at member
          rcases List.mem_append.mp member with earlier | now
          · exact held failed earlier unmaps
          · cases List.mem_singleton.mp now
            rw [succeeded] at refused
            cases refused
        · exact never size cannot
  | @refused length' last errno _ _ unmaps failed lastLogged more =>
      have whole := adds.trans more
      have allCalls : answer.calls = made ++ [last] := calls.trans whole.calls
      have allRecords : answer.records = told ++ [.refused .unmap length' region.base errno] ++
          [.notReleased region.base (.invalidRegion errno)] := by
        rw [List.append_assoc]
        exact records.trans whole.records
      refine .of_rounded _ never allRecords ?_ ?_
        (.inl ⟨.inl ⟨drops, last, ?_, unmaps, failed⟩, ?_⟩)
      · rw [allCalls]
        exact List.rel_append logged (.cons lastLogged .nil)
      · intro kind length address errno member
        rcases List.mem_append.mp member with earlier | now
        · exact carried kind length address errno earlier
        · cases List.mem_singleton.mp now
          rw [Carries, if_pos ⟨drops, rfl⟩, allRecords]
          exact List.mem_append_right _ (List.mem_singleton.mpr rfl)
      · rw [allCalls]
        exact List.mem_append_right _ (List.mem_singleton.mpr rfl)
      · exact ⟨_, _, List.getLast?_concat, .refused, rfl, rfl⟩

/-- A region was discarded. -/
theorem Faithful.of_discarded {id : SlotId} {region : Region}
    (found : machine.slots.region? id = some region)
    (dropped : region.Dropped (machine.start inThread) later) (calls : answer.calls = later.calls)
    (records : answer.records = later.records) : answer.Faithful machine (.region id .discard) := by
  have rounded : (Call.region id .discard).roundedSize? machine.slots = some region.size := by
    show (machine.slots.region? id).bind _ = _
    rw [found]
    rfl
  cases same : dropped with
  | unrounded rounding adds =>
      have cannot : (Call.region id .discard).CannotRound machine region.size := ⟨rounded, rounding⟩
      exact .of_unrounded cannot (calls.trans adds.calls) (records.trans adds.records)
        (.inl ⟨.inr ⟨id, region.size, rfl, cannot⟩, _, _, rfl, .unrounded, rfl, rfl⟩)
  | released rounds | refused rounds =>
      exact .of_dropped rfl rounded rounds .nil nofun nofun (.refl _) dropped calls records

/-- A region was built from code, or not. -/
theorem Faithful.of_built {id : SlotId} {code : List UInt8} {result : Except Stop Region}
    (empty : machine.slots.get? id = none)
    (built : Region.Built (.ofNat code.length) (machine.start inThread) (result, later))
    (calm : ∀ panic, result ≠ .error (.panic panic)) (safe : result ≠ .error .fault)
    (calls : answer.calls = later.calls) (records : answer.records = later.records)
    (answered : ∀ error, result = .error (.error error) →
      answer.result = .error (.stop (.error error))) :
    answer.Faithful machine (.region id (.ofCode code)) := by
  have rounded : (Call.region id (.ofCode code)).roundedSize? machine.slots =
      some (.ofNat code.length) :=
    if_pos empty
  have direct : ∀ {kind address errno}, kind ≠ .unmap →
      result = .error (.error (Mapping.classify kind errno)) →
      answer.Carries (.region id (.ofCode code)) kind address errno := by
    intro kind address errno held stopped
    rw [Carries, if_neg fun drop => held drop.2, if_neg nofun]
    exact answered _ stopped
  cases built with
  | @stopped stop _ abrupt =>
      cases stop with
      | error error => exact absurd rfl (abrupt error)
      | panic panic => exact absurd rfl (calm panic)
      | fault => exact absurd rfl safe
  | unallocated logged =>
      refine .of_logged rounded nofun (fun _ => ?_) logged (fun _ => ?_) calls records
        fun errno stopped _ => ?_
      · nofun
      · nofun
      · exact direct nofun stopped
  | @finished _ _ told _ _ rounds logged succeeded adds =>
      refine .of_rounded told (Call.CannotRound.ne_some rounded rounds) ?_ ?_ ?_
        (.inr ⟨not_dropFailed nofun fun _ made member _ => ?_, rfl⟩)
      · rw [List.append_nil]
        exact records.trans adds.records
      · rw [calls, adds.calls]
        exact logged
      · intro kind length address errno told
        exact absurd told (LoggedAs.refused_not_mem logged succeeded kind length address errno)
      · rw [calls, adds.calls] at member
        exact succeeded made member
  | dropped rounds logged held carried adds sized dropped =>
      refine .of_dropped rfl (sized ▸ rounded) (sized ▸ rounds) logged held ?_ adds dropped calls
        records
      intro kind length address errno told
      obtain ⟨notUnmap, rfl⟩ := carried kind length address errno told
      exact direct notUnmap rfl

/-- A length was computed, and nothing else was done. -/
theorem Faithful.of_length {logging : Logging} {result : Except Stop UInt64}
    (all : logging.maxLevel = some .trace) (rounded : call.roundedSize? machine.slots = some size)
    (undiscarded : ∀ id, call ≠ .region id .discard)
    (ran : (Mapping.length size).exec logging (machine.start inThread) = (result, later))
    (calm : ∀ panic, result ≠ .error (.panic panic)) (calls : answer.calls = later.calls)
    (records : answer.records = later.records) : answer.Faithful machine call := by
  rw [Mapping.exec_length, show (machine.start inThread).host = machine.host from rfl] at ran
  rcases rounding : mappingLength size machine.host.pageSize with panic | _ | length
  · rw [rounding] at ran
    cases ran
    exact absurd rfl (calm panic)
  · rw [rounding] at ran
    cases ran
    obtain ⟨noCalls, oneRecord, _⟩ := adds_emit all (.cannotRound size) (machine.start inThread)
    have none : answer.calls = [] := calls.trans noCalls
    refine .of_unrounded ⟨rounded, rounding⟩ none (records.trans oneRecord)
      (.inr ⟨not_dropFailed undiscarded fun _ made member => ?_, rfl⟩)
    rw [none] at member
    cases member
  · rw [rounding] at ran
    cases ran
    exact .of_quiet (Call.CannotRound.ne_some rounded rounding) calls records

end Answer

namespace Job

variable {α β : Type} {machine : Machine} {call : Call} {kind : CallKind} {address size : UInt64}
  {job : Job}

/-- Unless the operation panics or faults, its answer is a faithful account of it. -/
def Faithful (machine : Machine) (call : Call) (job : Job) : Prop :=
  ∀ ⦃logging : Logging⦄ ⦃inThread : Bool⦄ ⦃result : Except Stop job.α⦄ ⦃later : Context⦄,
    logging.maxLevel = some .trace →
      job.op.exec logging (machine.start inThread) = (result, later) →
    (∀ panic, result ≠ .error (.panic panic)) → result ≠ .error .fault →
    Answer.Faithful
      ⟨answerOf job.answer result, later.lastError, later.calls, later.records, later.host.layout⟩
      machine call

theorem faithful_of_quiet (quiet : job.op.Quiet) (never : call.roundedSize? machine.slots = none) :
    job.Faithful machine call := by
  intro logging inThread result later all ran _ _
  have adds := quiet.adds ran
  exact .of_quiet (Call.CannotRound.ne_none never) adds.calls adds.records

/-- An operation with at most one host call, of which the caller is told directly. -/
theorem faithful_of_logs (logs : job.op.Logs kind address size)
    (rounded : call.roundedSize? machine.slots = some size) (plain : call.drops = false)
    (direct : call.viaC = false) : job.Faithful machine call := by
  intro logging inThread result later all ran calm _
  have logged := logs logging (machine.start inThread) all
  rw [ran] at logged
  have undropped : ¬ call.drops = true := Bool.eq_false_iff.mp plain
  refine .of_logged rounded ?_ (fun drops => absurd drops undropped) logged calm rfl rfl
    fun errno stopped _ => ?_
  · rintro id rfl
    cases plain
  · rw [Answer.Carries, if_neg fun drop => undropped drop.1, if_neg (Bool.eq_false_iff.mp direct),
      stopped]
    rfl

/-- An operation of which the caller of the C interface is told by a value and the last error. -/
theorem faithful_viaC {op : Op α} {next : Except Error α → Op β} {answer : β → Value}
    {filled : β → Slots} {left : Slots} (logs : op.Logs kind address size)
    (returns : ∀ outcome, ∃ value, next outcome = pure value)
    (rounded : call.roundedSize? machine.slots = some size) (viaC : call.viaC = true) :
    Job.Faithful machine call ⟨attempt op >>= next, answer, filled, left⟩ := by
  intro logging inThread result later all ran calm safe
  have undropped : ¬ call.drops = true := Bool.eq_false_iff.mp (Call.drops_of_viaC viaC)
  have undiscarded : ∀ id, call ≠ .region id .discard := by
    rintro id rfl
    cases viaC
  have logged := logs logging (machine.start inThread) all
  rw [Effect.exec_bind, exec_attempt] at ran
  -- an error has become a value; what it left in the trace and in the last error is as before
  rcases asked : op.exec logging (machine.start inThread) with
    ⟨(error | panic | _) | value, between⟩
  · rw [asked] at ran logged
    obtain ⟨value, returned⟩ := returns (.error error)
    dsimp only at ran
    rw [returned] at ran
    cases ran
    refine .of_logged rounded undiscarded (fun drops => absurd drops undropped) logged nofun rfl rfl
      fun errno _ number => ?_
    rw [Answer.Carries, if_neg fun drop => undropped drop.1, if_pos viaC]
    exact number
  · rw [asked] at ran
    cases ran
    exact absurd rfl (calm panic)
  · rw [asked] at ran
    cases ran
    exact absurd rfl safe
  · rw [asked] at ran logged
    obtain ⟨value, returned⟩ := returns (.ok value)
    dsimp only at ran
    rw [returned] at ran
    cases ran
    exact .of_logged rounded undiscarded (fun drops => absurd drops undropped) logged
      nofun rfl rfl nofun

end Job

/-! ## The job of each call -/

/-- A call that does not start has no length to compute. -/
def FaithfulJob (machine : Machine) (call : Call) : Except Halt Job → Prop
  | .ok job => job.Faithful machine call
  | .error _ => call.roundedSize? machine.slots = none

section Calls

open Job

variable {α : Type} {machine : Machine} {call : Call} {id : SlotId} {place : Place} {size : UInt64}

theorem faithful_create {op : Op α} {slot : α → Slot} {answer : α → Value}
    (rounded : call.roundedSize? machine.slots = if machine.slots.get? id = none then some size else
      none)
    (faithful : machine.slots.get? id = none → call.roundedSize? machine.slots = some size →
      Job.Faithful machine call
        ⟨op, answer, fun value => machine.slots.insert id (slot value), machine.slots⟩) :
    FaithfulJob machine call (create machine.slots id op slot answer) := by
  unfold create
  cases found : machine.slots.get? id with
  | none => exact faithful found (by rw [rounded, if_pos found])
  | some held => exact rounded.trans (if_neg (by rw [found]; nofun))

theorem faithful_atPlace {op : UInt64 → Op α} {answer : α → Value}
    (rounded : call.roundedSize? machine.slots = (place.address? machine.slots).map fun _ => size)
    (faithful : ∀ address, call.roundedSize? machine.slots = some size →
      (plain machine.slots (op address) answer).Faithful machine call) :
    FaithfulJob machine call (atPlace machine.slots place op answer) := by
  unfold atPlace
  cases found : place.address? machine.slots with
  | none => exact rounded.trans (by rw [found]; rfl)
  | some address => exact faithful address (by rw [rounded, found]; rfl)

theorem faithful_atPlace_quiet {op : UInt64 → Op α} {answer : α → Value}
    (never : call.roundedSize? machine.slots = none) (quiet : ∀ address, (op address).Quiet) :
    FaithfulJob machine call (atPlace machine.slots place op answer) := by
  unfold atPlace
  cases place.address? machine.slots with
  | none => exact never
  | some address => exact faithful_of_quiet (quiet address) never

theorem faithful_onRegion_quiet {job : Region → Job}
    (never : call.roundedSize? machine.slots = none) (quiet : ∀ region, (job region).op.Quiet) :
    FaithfulJob machine call (onRegion machine.slots id job) := by
  unfold onRegion
  cases machine.slots.region? id with
  | none => exact never
  | some region => exact faithful_of_quiet (quiet region) never

theorem faithful_onRegion {job : Region → Job} {rounded? : Region → Option UInt64}
    (rounded : call.roundedSize? machine.slots = (machine.slots.region? id).bind rounded?)
    (faithful : ∀ region, machine.slots.region? id = some region →
      call.roundedSize? machine.slots = rounded? region → (job region).Faithful machine call) :
    FaithfulJob machine call (onRegion machine.slots id job) := by
  unfold onRegion
  cases found : machine.slots.region? id with
  | none => exact rounded.trans (by rw [found]; rfl)
  | some region => exact faithful region found (by rw [rounded, found]; rfl)

theorem faithful_mappingCall (call : MappingCall) :
    FaithfulJob machine (.mapping call) (call.job machine.slots) := by
  cases call with
  | length size =>
      intro logging inThread result later all ran calm _
      exact .of_length all rfl nofun ran calm rfl rfl
  | alloc slot size =>
      exact faithful_create rfl fun _ rounded =>
        faithful_of_logs (Mapping.logs_alloc size) rounded rfl rfl
  | protect place size flags =>
      exact faithful_atPlace rfl fun address rounded =>
        faithful_of_logs (Mapping.logs_protect address size flags) rounded rfl rfl
  | makeExecutable place size =>
      exact faithful_atPlace rfl fun address rounded =>
        faithful_of_logs (Mapping.logs_makeExecutable address size) rounded rfl rfl
  | release place size =>
      exact faithful_atPlace rfl fun address rounded =>
        faithful_of_logs (Mapping.logs_release address size) rounded rfl rfl
  | flushInstructionCache place size =>
      exact faithful_atPlace_quiet rfl fun address => Op.quiet_pure ()

theorem status_returns (outcome : Except Error Unit) : ∃ value : Int32,
    (match outcome with
      | .ok () => return 0
      | .error _ => return -1 : Op Int32) = pure value := by
  cases outcome with
  | ok _ => exact ⟨0, rfl⟩
  | error error => exact ⟨-1, rfl⟩

theorem faithful_cCall (call : CCall) : FaithfulJob machine (.c call) (call.job machine.slots) := by
  cases call with
  | pageSize => exact faithful_of_quiet Op.quiet_pageSize rfl
  | errno => exact faithful_of_quiet (Op.quiet_lastError.bind fun _ => Op.quiet_pure _) rfl
  | alloc slot size =>
      unfold CCall.job
      dsimp only
      cases found : machine.slots.get? slot with
      | some held => exact if_neg (by rw [found]; nofun)
      | none =>
          have rounded : (Call.c (.alloc slot size)).roundedSize? machine.slots = some size :=
            if_pos found
          refine faithful_viaC (Mapping.logs_alloc size) (fun outcome => ?_) rounded rfl
          cases outcome with
          | ok address => exact ⟨address, rfl⟩
          | error error => exact ⟨0, rfl⟩
  | makeExecutable place size =>
      exact faithful_atPlace rfl fun address rounded =>
        faithful_viaC (Mapping.logs_makeExecutable address size) status_returns rounded rfl
  | free place size =>
      exact faithful_atPlace rfl fun address rounded =>
        faithful_viaC (Mapping.logs_release address size) status_returns rounded rfl

theorem faithful_regionCall (call : RegionCall) :
    FaithfulJob machine (.region id call) (call.job machine.slots id) := by
  cases call with
  | allocate size =>
      exact faithful_create rfl fun _ rounded =>
        faithful_of_logs (Region.logs_allocate size) rounded rfl rfl
  | ofCode code =>
      refine faithful_create rfl fun empty rounded => ?_
      intro logging inThread result later all ran calm safe
      have built := Region.built_ofCode code all (machine.start inThread)
      rw [ran] at built
      refine .of_built empty built calm safe rfl rfl ?_
      rintro error rfl
      rfl
  | info =>
      refine faithful_onRegion rfl fun region _ rounded => ?_
      intro logging inThread result later all ran calm safe
      change region.mappedLength.exec logging _ = _ at ran
      unfold Region.mappedLength at ran
      rw [Effect.exec_bind, exec_attempt] at ran
      rcases asked : (Mapping.length region.size).exec logging (machine.start inThread) with
        ⟨(error | panic | _) | length, between⟩
      · rw [asked] at ran
        cases ran
        exact .of_length all rounded nofun asked nofun rfl rfl
      · rw [asked] at ran
        cases ran
        exact absurd rfl (calm panic)
      · rw [asked] at ran
        cases ran
        exact absurd rfl safe
      · rw [asked] at ran
        cases ran
        exact .of_length all rounded nofun asked nofun rfl rfl
  | makeExecutable =>
      refine faithful_onRegion rfl fun region _ rounded => ?_
      cases state : region.state with
      | writable =>
          rw [if_pos state] at rounded
          exact faithful_of_logs (Region.logs_makeExecutable state) rounded rfl rfl
      | executable =>
          rw [if_neg (by rw [state]; nofun)] at rounded
          refine faithful_of_quiet (fun before logging context adds => ?_) rounded
          have refused : region.makeExecutable.exec logging context =
              (.error (.error .invalidState), context) := by
            simp [Region.makeExecutable, Region.requireWritable, state]
          rw [refused]
          exact adds
  | read start stop => exact faithful_onRegion_quiet rfl fun region => region.quiet_read _ _
  | write offset bytes => exact faithful_onRegion_quiet rfl fun region => region.quiet_write _ _
  | fill value => exact faithful_onRegion_quiet rfl fun region => region.quiet_fill _
  | free =>
      exact faithful_onRegion rfl fun region _ rounded =>
        faithful_of_logs (Mapping.logs_release region.base region.size) rounded rfl rfl
  | discard =>
      refine faithful_onRegion rfl fun region found _ => ?_
      intro logging inThread result later all ran calm _
      rcases region.dropped_discard all (machine.start inThread) with
        ⟨panic, _, panicked⟩ | ⟨_, discarded, dropped⟩
      · cases panicked.symm.trans ran
        exact absurd rfl (calm panic)
      · cases discarded.symm.trans ran
        exact .of_discarded found dropped rfl rfl
  | call arguments offset =>
      refine faithful_onRegion_quiet rfl fun region => ?_
      cases region.entry? with
      | some entry => exact Op.quiet_callCode _ _ _
      | none => exact Op.quiet_throw _

theorem faithful_call (call : Call) : FaithfulJob machine call (call.job machine.slots) := by
  cases call with
  | pageSize => exact faithful_of_quiet Op.quiet_pageSize rfl
  | lastError => exact faithful_of_quiet Op.quiet_lastError rfl
  | setLastError errno => exact faithful_of_quiet (Op.quiet_setLastError errno) rfl
  | mapping call => exact faithful_mappingCall call
  | c call => exact faithful_cCall call
  | region id call => exact faithful_regionCall call

end Calls

/-! ## Steps and scripts -/

/-- **Every step**: unless it panics or faults, its records are a faithful account of its host
calls. -/
theorem Machine.step_faithful {logging : Logging} (all : logging.maxLevel = some .trace)
    (machine : Machine) (call : Call) (inThread : Bool)
    (calm : ∀ panic, (machine.step logging (.library call inThread)).1.result ≠
      .error (.stop (.panic panic)))
    (safe : (machine.step logging (.library call inThread)).1.result ≠ .error (.stop .fault)) :
    (machine.step logging (.library call inThread)).1.Faithful machine call := by
  have faithful := @faithful_call machine call
  cases found : call.job machine.slots with
  | error halt =>
      rw [found] at faithful
      obtain ⟨lastError, stepped⟩ := @step_halted logging machine call inThread halt found
      rw [stepped]
      exact .of_quiet (Call.CannotRound.ne_none faithful) rfl rfl
  | ok job =>
      rw [found] at faithful
      rcases ran : job.op.exec logging (machine.start inThread) with ⟨result, later⟩
      by_cases faults : result = .error .fault
      · rw [faults] at ran
        exact absurd (step_job_fault found ran) safe
      · rw [step_job found ran faults] at calm ⊢
        refine faithful all ran ?_ faults
        rintro panic rfl
        exact calm panic rfl

/-- The answer to a step is that of the machine which the steps before it leave. -/
theorem Machine.getElem?_run (logging : Logging) (machine : Machine) (steps : List Step) (n : Nat) :
    (machine.run logging steps).1[n]? =
      steps[n]?.map fun step => ((machine.run logging (steps.take n)).2.step logging step).1 := by
  induction steps generalizing machine n with
  | nil => rfl
  | cons step later ih =>
      cases n with
      | zero => rfl
      | succ n => exact ih (machine.step logging step).2 n

/-- **The log is a faithful record of the host calls.** In any script, with everything logged and
whatever the logger does to the last error, take a call of the library that does not panic and does
not fault.

* Its records about host calls correspond to the calls one to one and in order. A success is traced
  with the address and the length of the call. A failure, and a mapping at the null address is one,
  is recorded for debugging with the length, the address and the error number, and that is the
  number of the error it led to.
* If the size that the call works with has no rounding, then there is no host call, and one record
  that says so.
* There is a warning if and only if a region was dropped and not given back. It is the only one, and
  it comes right after the record that says why. Freeing a region is no drop and never warns.
* Every record has the severity, the source and the wording of its kind: the one without a rounding
  is for debugging, the one of a drop is a warning, lengths and addresses are written in
  hexadecimal, and an error number is written as the text that the host's table has for it. -/
theorem log_is_faithful (clobber : Option Errno) {steps : List Step} {n : Nat} {call : Call}
    {inThread : Bool} (found : steps[n]? = some (.library call inThread)) :
    let logging : Logging := ⟨some .trace, clobber⟩
    ∃ answer, (runScript logging steps)[n]? = some answer ∧
      ((∀ panic, answer.result ≠ .error (.stop (.panic panic))) →
        answer.result ≠ .error (.stop .fault) →
        answer.Faithful (Machine.initial.run logging (steps.take n)).2 call) := by
  intro logging
  refine ⟨_, ?_, fun calm safe => @Machine.step_faithful logging rfl _ call inThread calm safe⟩
  rw [runScript, Machine.getElem?_run, found]
  rfl

/-- A region that can be neither finished nor given back, an allocation at the null address, and a
region whose size has no rounding any more when it is discarded. -/
def spoiledScript : List Step := [
  .host (.plan ⟨0, .refuse .protect .accessDenied⟩),
  .host (.plan ⟨0, .refuse .unmap .invalidArgument⟩),
  .library (.region 0 (.ofCode [0xc3])) false,
  .host (.plan ⟨0, .null⟩),
  .library (.c (.alloc 1 100)) true,
  .host (.plan ⟨0, .resize 4096⟩),
  .library (.region 2 (.allocate 0x8000000000000001)) false,
  .host (.setPageSize 0x8000000000000000),
  .library (.region 2 .discard) false]

theorem log_is_faithful_spoiledScript :
    let logging : Logging := ⟨some .trace, some ⟨7⟩⟩
    let machine n := (Machine.initial.run logging (spoiledScript.take n)).2
    ∃ built null discarded : Answer,
      (runScript logging spoiledScript)[2]? = some built ∧
      (runScript logging spoiledScript)[4]? = some null ∧
      (runScript logging spoiledScript)[8]? = some discarded ∧
      built.records = [.mapped 4096 0x10000000000,
        .refused .protect 4096 0x10000000000 .accessDenied,
        .refused .unmap 4096 0x10000000000 .invalidArgument,
        .notReleased 0x10000000000 (.invalidRegion .invalidArgument)] ∧
      null.records = [.refused .map 4096 0 .success] ∧
      discarded.records = [.cannotRound 0x8000000000000001, .notReleased 0x10000200000 .tooLarge] ∧
      built.records.map (fun record => (record.level, record.message)) = [
        (.trace, "mapped 0x1000 bytes at 0x10000000000"),
        (.debug, "Protect of 0x1000 bytes at 0x10000000000 failed: Permission denied"),
        (.debug, "Unmap of 0x1000 bytes at 0x10000000000 failed: Invalid argument"),
        (.warn,
          "failed to release JIT region at 0x10000000000: invalid region: Invalid argument")] ∧
      built.Faithful (machine 2) (.region 0 (.ofCode [0xc3])) ∧
      null.Faithful (machine 4) (.c (.alloc 1 100)) ∧
      discarded.Faithful (machine 8) (.region 2 .discard) := by
  intro logging machine
  have seen : (runScript logging spoiledScript).map
      (fun answer => (answer.result, answer.records)) = [
      (.ok .unit, []), (.ok .unit, []),
      (.error (.stop (.error (.unsupportedTransition .accessDenied))), [.mapped 4096 0x10000000000,
        .refused .protect 4096 0x10000000000 .accessDenied,
        .refused .unmap 4096 0x10000000000 .invalidArgument,
        .notReleased 0x10000000000 (.invalidRegion .invalidArgument)]),
      (.ok .unit, []), (.ok (.address 0), [.refused .map 4096 0 .success]), (.ok .unit, []),
      (.ok (.address 0x10000200000), [.mapped 0x8000000000001000 0x10000200000]), (.ok .unit, []),
      (.ok .unit, [.cannotRound 0x8000000000000001, .notReleased 0x10000200000 .tooLarge])] := by
        decide +kernel
  have shown : ∀ (n : Nat) (answer : Answer), (runScript logging spoiledScript)[n]? = some answer →
      ((runScript logging spoiledScript).map fun answer => (answer.result, answer.records))[n]? =
        some (answer.result, answer.records) := by
    intro n answer found
    rw [List.getElem?_map, found]
    rfl
  rw [seen] at shown
  obtain ⟨built, builtAt, builtFaithful⟩ := @log_is_faithful (some ⟨7⟩) spoiledScript 2 _ _ rfl
  obtain ⟨null, nullAt, nullFaithful⟩ := @log_is_faithful (some ⟨7⟩) spoiledScript 4 _ _ rfl
  obtain ⟨discarded, discardedAt, discardedFaithful⟩ :=
    @log_is_faithful (some ⟨7⟩) spoiledScript 8 _ _ rfl
  obtain ⟨builtResult, builtRecords⟩ := Prod.mk.inj (Option.some.inj (shown 2 built builtAt))
  obtain ⟨nullResult, nullRecords⟩ := Prod.mk.inj (Option.some.inj (shown 4 null nullAt))
  obtain ⟨discardedResult, discardedRecords⟩ :=
    Prod.mk.inj (Option.some.inj (shown 8 discarded discardedAt))
  rw [← builtResult] at builtFaithful
  rw [← nullResult] at nullFaithful
  rw [← discardedResult] at discardedFaithful
  refine ⟨built, null, discarded, builtAt, nullAt, discardedAt, builtRecords.symm, nullRecords.symm,
    discardedRecords.symm, ?_, builtFaithful nofun nofun, nullFaithful nofun nofun,
    discardedFaithful nofun nofun⟩
  rw [← builtRecords]
  decide +kernel

end ExecMemory
