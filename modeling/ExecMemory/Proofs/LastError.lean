import ExecMemory.Proofs.HostReplies

/-!
# The last error

A caller that looks at no error values learns the reason of a failure from its thread's last error.
That is one cell, which host calls, the logger and the library all write to.

* `Op.Agrees` says that the last error an operation leaves fits the way it ended. `Op.Agrees.bind`
  and `agrees_sysCall` compose it, and every operation on a mapping or a region that makes at most
  one host call agrees (`last_error_agrees`).
* Building a region from code makes up to three. When the region cannot be finished it is discarded,
  and the last error is then the one that discarding leaves, not the one of the failure that is
  reported (`lastError_of_ofCode_error`, `ofCode_can_replace_lastError`).
-/

namespace ExecMemory

/-- The last error that goes with an error: the number it carries; no memory, if the size has no
rounding; and the last error of before, if the host was not asked. -/
def Error.lastError (before : Errno) (error : Error) : Errno :=
  match error.errno? with
  | some errno => errno
  | none => if error = .tooLarge then .outOfMemory else before

theorem Error.lastError_of_errno? {error : Error} {errno : Errno}
    (carries : error.errno? = some errno) (before : Errno) : error.lastError before = errno := by
  unfold lastError
  rw [carries]

/-- The number of a refused call is the one its error carries. -/
@[simp]
theorem Mapping.errno?_classify (kind : CallKind) (errno : Errno) :
    (classify kind errno).errno? = some errno := by
  cases kind with
  | map => rfl
  | unmap => rfl
  | protect =>
      unfold classify
      dsimp only
      split
      · rfl
      · rfl

/-- What is left in the last error and the log by an operation that started with `before` and
`records`. An error leaves its own number. A success leaves the last error alone, unless it produced
a record and the logger overwrites the last error. A panic or a fault leaves it alone. -/
def Agreement {α : Type} (logging : Logging) (before : Errno) (records : List Record) :
    Except Stop α × Context → Prop
  | (.ok _, later) => ∃ new, later.records = records ++ new ∧
      later.lastError = if new = [] then before else logging.clobber.getD before
  | (.error (.error error), later) => later.lastError = error.lastError before
  | (.error _, later) => later.lastError = before

/-- However the operation ends, the last error it leaves fits the ending. -/
def Op.Agrees {α : Type} (op : Op α) : Prop :=
  ∀ logging context,
    Agreement logging context.lastError context.records (op.exec logging context)

/-- Unless it stops, the operation leaves the last error and the log alone. -/
def Op.Silent {α : Type} (op : Op α) : Prop :=
  ∀ logging context value later, op.exec logging context = (.ok value, later) →
    later.lastError = context.lastError ∧ later.records = context.records

namespace Op

variable {α β : Type}

/-! ## The parts of an operation -/

theorem agrees_pure (value : α) : Agrees (pure value) := by
  intro logging context
  exact ⟨[], (List.append_nil _).symm, rfl⟩

theorem silent_pure (value : α) : Silent (pure value) := by
  intro logging context result later ran
  cases ran
  exact ⟨rfl, rfl⟩

theorem agrees_emit (record : Record) : Agrees (emit record) := by
  intro logging context
  rw [exec_emit]
  by_cases shown : logging.shows record.level = true
  · rw [if_pos shown]
    exact ⟨[record], rfl, rfl⟩
  · rw [if_neg shown]
    exact ⟨[], (List.append_nil _).symm, rfl⟩

theorem agrees_store (start length : Nat) (content : Nat → UInt8) :
    Agrees (store start length content) := by
  intro logging context
  rw [exec_store]
  cases context.host.memory.write? start length content with
  | some memory => exact ⟨[], (List.append_nil _).symm, rfl⟩
  | none => exact rfl

/-- What comes after a silent part starts with the same last error and the same log. -/
theorem Agrees.bind {op : Op α} {next : α → Op β} (first : op.Agrees) (silent : op.Silent)
    (second : ∀ value, (next value).Agrees) : Op.Agrees (op >>= next) := by
  intro logging context
  have ended := first logging context
  rw [Effect.exec_bind]
  rcases ran : op.exec logging context with ⟨stop | value, later⟩
  · rw [ran] at ended
    cases stop <;> exact ended
  · obtain ⟨sameError, sameRecords⟩ := silent logging context value later ran
    rw [← sameError, ← sameRecords]
    exact second value logging later

/-- Returning something made from the result changes nothing. -/
theorem Agrees.bind_pure {op : Op α} (first : op.Agrees) (f : α → β) :
    Op.Agrees (op >>= fun value => pure (f value)) := by
  intro logging context
  have ended := first logging context
  rw [Effect.exec_bind]
  rcases ran : op.exec logging context with ⟨stop | value, later⟩
  · rw [ran] at ended
    cases stop <;> exact ended
  · rw [ran] at ended
    exact ended

/-- A host call that succeeds leaves the last error to what follows. One that fails overwrites it,
so what follows has to agree whatever was there before. -/
theorem agrees_sysCall {request : Request} {next : Reply → Op α}
    (ok : ∀ value, (next (.ok value)).Agrees)
    (error : ∀ errno logging context before records,
      Agreement logging before records ((next (.error errno)).exec logging context)) :
    Op.Agrees (sysCall request >>= next) := by
  intro logging context
  rw [Effect.exec_bind, exec_sysCall]
  rcases context.host.call request with ⟨errno | value, host⟩
  · exact error errno logging _ _ _
  · exact ok value logging _

end Op

/-! ## Operations on mappings and regions -/

namespace Mapping

open Op

/-- A refusal carries the last error it found and leaves it in place. -/
theorem agrees_refused {α : Type} (kind : CallKind) (address length : UInt64) (logging : Logging)
    (context : Context) (before : Errno) (records : List Record) :
    Agreement logging before records
      ((refused kind address length : Op α).exec logging context) := by
  rw [exec_refused]
  exact (Error.lastError_of_errno? (errno?_classify kind context.lastError) before).symm

theorem agrees_length (size : UInt64) : (length size).Agrees := by
  intro logging context
  rw [exec_length]
  rcases mappingLength size context.host.pageSize with panic | (_ | length)
  · exact rfl
  · exact rfl
  · exact ⟨[], (List.append_nil _).symm, rfl⟩

theorem silent_length (size : UInt64) : (length size).Silent := by
  intro logging context value later ran
  rw [exec_length] at ran
  revert ran
  rcases mappingLength size context.host.pageSize with panic | (_ | length) <;> intro ran
  · cases ran
  · cases ran
  · cases ran
    exact ⟨rfl, rfl⟩

theorem agrees_alloc (size : UInt64) : (alloc size).Agrees := by
  refine (agrees_length size).bind (silent_length size) fun length => ?_
  refine agrees_sysCall (fun address => ?_) fun _ => agrees_refused .map 0 length
  by_cases null : address = 0
  · simp only [if_pos null]
    exact fun logging context => agrees_refused .map 0 length logging context _ _
  · simp only [if_neg null]
    exact (agrees_emit _).bind_pure fun _ => address

theorem agrees_protect (address size : UInt64) (flags : Flags) :
    (protect address size flags).Agrees := by
  refine (agrees_length size).bind (silent_length size) fun length => ?_
  exact agrees_sysCall (fun _ => agrees_emit _) fun _ => agrees_refused .protect address length

theorem agrees_makeExecutable (address size : UInt64) : (makeExecutable address size).Agrees := by
  refine (agrees_length size).bind (silent_length size) fun length => ?_
  refine (agrees_pure ()).bind (silent_pure ()) fun _ => ?_
  exact agrees_protect address size .readExec

theorem agrees_release (address size : UInt64) : (release address size).Agrees := by
  refine (agrees_length size).bind (silent_length size) fun length => ?_
  exact agrees_sysCall (fun _ => agrees_emit _) fun _ => agrees_refused .unmap address length

end Mapping

namespace Region

open Op

theorem agrees_allocate (size : UInt64) : (allocate size).Agrees :=
  (Mapping.agrees_alloc size).bind_pure fun base => Region.mk base size .writable

/-- The state is checked without asking the host. -/
theorem agrees_requireWritable (region : Region) : region.requireWritable.Agrees := by
  unfold requireWritable
  cases region.state with
  | writable => exact agrees_pure ()
  | executable => exact fun _ _ => rfl

theorem silent_requireWritable (region : Region) : region.requireWritable.Silent := by
  unfold requireWritable
  cases region.state with
  | writable => exact silent_pure ()
  | executable =>
      intro logging context value later ran
      cases ran

theorem agrees_write (region : Region) (offset : UInt64) (bytes : List UInt8) :
    (region.write offset bytes).Agrees := by
  rw [write_eq]
  refine region.agrees_requireWritable.bind region.silent_requireWritable fun _ => ?_
  by_cases inside : offset.toNat + bytes.length ≤ region.size.toNat
  · rw [if_pos inside]
    exact agrees_store _ _ _
  · rw [if_neg inside]
    exact fun _ _ => rfl

theorem agrees_fill (region : Region) (value : UInt8) : (region.fill value).Agrees :=
  region.agrees_requireWritable.bind region.silent_requireWritable fun _ => agrees_store _ _ _

theorem agrees_makeExecutable (region : Region) : region.makeExecutable.Agrees := by
  refine region.agrees_requireWritable.bind region.silent_requireWritable fun _ => ?_
  exact (Mapping.agrees_makeExecutable region.base region.size).bind_pure fun _ =>
    { region with state := .executable }

end Region

/-- **The last error agrees with the answer.** For every operation on mappings, and every operation
on regions that makes at most one host call, from any host with any faults planned, under any
logging:

* after an error that carries a number, the last error is that number;
* after `tooLarge` it is `Errno.outOfMemory`, after `invalidState` and `invalidArgument` it is what
  it was;
* after a success it is what it was, unless a record was produced and the logger overwrites it. -/
theorem last_error_agrees :
    (∀ size, (Mapping.length size).Agrees) ∧
    (∀ size, (Mapping.alloc size).Agrees) ∧
    (∀ address size flags, (Mapping.protect address size flags).Agrees) ∧
    (∀ address size, (Mapping.makeExecutable address size).Agrees) ∧
    (∀ address size, (Mapping.release address size).Agrees) ∧
    (∀ size, (Region.allocate size).Agrees) ∧
    (∀ (region : Region) offset bytes, (region.write offset bytes).Agrees) ∧
    (∀ (region : Region) value, (region.fill value).Agrees) ∧
    (∀ region : Region, region.makeExecutable.Agrees) ∧
    (∀ region : Region, region.free.Agrees) :=
  ⟨Mapping.agrees_length, Mapping.agrees_alloc, Mapping.agrees_protect,
    Mapping.agrees_makeExecutable, Mapping.agrees_release, Region.agrees_allocate,
    Region.agrees_write, Region.agrees_fill, Region.agrees_makeExecutable,
    fun region => Mapping.agrees_release region.base region.size⟩

/-! ## Building a region from code

A region that cannot be finished is discarded after its error was found. Discarding asks the host
once more and logs, and nothing puts the last error back afterwards. -/

/-- Like `Op.Ends`, with the last error that is left. -/
def Op.Leaves {α : Type} (errno : Errno) (op : Op α) (logging : Logging) (context : Context)
    (result : Except Stop α) (host : Host) (calls : List SysCall) : Prop :=
  ∃ records, op.exec logging context = (result, ⟨host, errno, context.calls ++ calls, records⟩)

namespace Op

variable {α β : Type} {logging : Logging} {context : Context} {host after : Host}
  {calls more : List SysCall} {result : Except Stop α} {errno number : Errno} {op : Op α}

theorem Ends.leaves (ends : Ends op logging context result host calls) :
    Leaves (op.exec logging context).2.lastError op logging context result host calls := by
  obtain ⟨lastError, records, ran⟩ := ends
  refine ⟨records, ?_⟩
  rw [ran]

/-- An operation that agrees leaves the number of its error. -/
theorem Ends.leaves_errno {error : Error}
    (ends : Ends op logging context (.error (.error error)) host calls) (agrees : op.Agrees)
    (carries : error.errno? = some errno) :
    Leaves errno op logging context (.error (.error error)) host calls := by
  obtain ⟨lastError, records, ran⟩ := ends
  have agreed := agrees logging context
  rw [ran] at agreed
  have left : lastError = errno := agreed.trans (Error.lastError_of_errno? carries _)
  subst left
  exact ⟨records, ran⟩

theorem Leaves.bind {next : α → Op β} {value : α} {result : Except Stop β}
    (first : Leaves number op logging context (.ok value) host calls)
    (second : ∀ later : Context, later.host = host → later.lastError = number →
      Leaves errno (next value) logging later result after more) :
    Leaves errno (op >>= next) logging context result after (calls ++ more) := by
  obtain ⟨records, ran⟩ := first
  obtain ⟨records', ran'⟩ := second ⟨host, number, context.calls ++ calls, records⟩ rfl rfl
  refine ⟨records', ?_⟩
  rw [Effect.exec_bind, ran]
  show Effect.exec (next value) logging _ = _
  rw [ran', List.append_assoc]

theorem Leaves.bind_error {next : α → Op β} {stop : Stop}
    (first : Leaves errno op logging context (.error stop) host calls) :
    Leaves errno (op >>= next) logging context (.error stop) host calls := by
  obtain ⟨records, ran⟩ := first
  refine ⟨records, ?_⟩
  rw [Effect.exec_bind, ran]

theorem Leaves.attempt (leaves : Leaves errno op logging context result host calls) :
    Leaves errno (attempt op) logging context (attempted result) host calls := by
  obtain ⟨records, ran⟩ := leaves
  refine ⟨records, ?_⟩
  rw [exec_attempt, ran]
  rcases result with (error | panic) | value <;> rfl

/-- What is known of an ending is what the run shows. -/
theorem Leaves.of_exec {answer : Except Stop α} {later : Context}
    (leaves : Leaves errno op logging context result host calls)
    (ran : op.exec logging context = (answer, later)) :
    answer = result ∧ later.calls = context.calls ++ calls ∧ later.lastError = errno := by
  obtain ⟨records, ended⟩ := leaves
  rw [ran] at ended
  cases ended
  exact ⟨rfl, rfl, rfl⟩

theorem leaves_pure (same : context.host = host) (value : α) :
    Leaves context.lastError (pure value) logging context (.ok value) host [] := by
  refine ⟨context.records, ?_⟩
  rw [Effect.exec_pure, List.append_nil, ← same]

theorem leaves_throw (same : context.host = host) (stop : Stop) :
    Leaves context.lastError (throw stop : Op α) logging context (.error stop) host [] := by
  refine ⟨context.records, ?_⟩
  rw [Effect.exec_throw, List.append_nil, ← same]

theorem leaves_emit (same : context.host = host) (record : Record) :
    Leaves (if logging.shows record.level then logging.clobber.getD context.lastError
      else context.lastError) (emit record) logging context (.ok ()) host [] := by
  unfold Leaves
  rw [exec_emit, List.append_nil, ← same]
  by_cases shown : logging.shows record.level = true
  · rw [if_pos shown, if_pos shown]
    exact ⟨_, rfl⟩
  · rw [if_neg shown, if_neg shown]
    exact ⟨_, rfl⟩

/-- A successful host call leaves the last error alone. -/
theorem leaves_sysCall {request : Request} {value : UInt64} (same : context.host = host)
    (called : host.call request = (.ok value, after)) :
    Leaves context.lastError (sysCall request) logging context (.ok (.ok value)) after
      [⟨request, .ok value⟩] := by
  refine ⟨context.records, ?_⟩
  rw [exec_sysCall, same, called]

end Op

/-- The last error after a region was discarded, from the host's reply to the release. A refusal
leaves its own number, and the logger may overwrite the last error with the record of the release or
of the refusal. -/
def lastErrorOfDiscard (logging : Logging) (before : Errno) : Reply → Errno
  | .ok _ => if logging.shows .trace then logging.clobber.getD before else before
  | .error refused => if logging.shows .warn then logging.clobber.getD refused else refused

namespace Region

open Op

variable {logging : Logging} {context : Context} {code : List UInt8} {error : Error} {errno : Errno}
  {length base : UInt64} {reply : Reply} {host mapped refused later : Host} {memory : Memory}

theorem leaves_length {size : UInt64} (same : context.host = host)
    (rounds : mappingLength size host.pageSize = .ok (some length)) :
    Leaves context.lastError (Mapping.length size) logging context (.ok length) host [] := by
  refine ⟨context.records, ?_⟩
  rw [Mapping.exec_length, same, rounds, List.append_nil, ← same]

theorem leaves_discard {region : Region} (same : context.host = host)
    (rounds : mappingLength region.size host.pageSize = .ok (some length))
    (called : host.call (.unmap region.base length) = (reply, later)) :
    Leaves (lastErrorOfDiscard logging context.lastError reply) region.discard logging context
      (.ok ()) later [⟨.unmap region.base length, reply⟩] := by
  cases reply with
  | ok value =>
      have released : Leaves (lastErrorOfDiscard logging context.lastError (.ok value)) region.free
          logging context (.ok ()) later [⟨.unmap region.base length, .ok value⟩] := by
        refine (leaves_length same rounds).bind fun _ same first => ?_
        refine (leaves_sysCall same called).bind fun _ same second => ?_
        rw [← first, ← second]
        exact leaves_emit same (.unmapped length region.base)
      refine released.attempt.bind fun _ same number => ?_
      rw [← number]
      exact leaves_pure same ()
  | error refused =>
      have released : Leaves refused region.free logging context
          (.error (.error (.invalidRegion refused))) later
          [⟨.unmap region.base length, .error refused⟩] :=
        (Mapping.ends_release_refused same rounds called).leaves_errno
          (Mapping.agrees_release region.base region.size) rfl
      refine released.attempt.bind fun _ same number => ?_
      subst number
      exact leaves_emit same (.notReleased region.base (.invalidRegion _))

/-- The cleanup has the last word. -/
theorem leaves_ofCode_error {region : Region} {calls more rest : List SysCall} {number : Errno}
    (allocated : Ends (allocate (.ofNat code.length)) logging context (.ok region) mapped calls)
    (finished : ∀ now : Context, now.host = mapped →
      Leaves number (do region.write 0 code; region.makeExecutable) logging now
        (.error (.error error)) refused more)
    (discarded : ∀ now : Context, now.host = refused → now.lastError = number →
      Leaves errno region.discard logging now (.ok ()) later rest) :
    Leaves errno (ofCode code) logging context (.error (.error error)) later
      (calls ++ (more ++ rest)) := by
  refine allocated.leaves.bind fun now same _ => ?_
  refine (finished now same).attempt.bind fun now same left => ?_
  rw [← List.append_nil rest]
  refine (discarded now same left).bind fun now same left => ?_
  rw [← left]
  exact leaves_throw same (.error error)

theorem leaves_ofCode_unprotected
    (rounds : mappingLength (.ofNat code.length) context.host.pageSize = .ok (some length))
    (called : context.host.call (.map length .readWrite) = (.ok base, mapped)) (notNull : base ≠ 0)
    (fits : code.length < UInt64.size)
    (written : mapped.memory.write? base.toNat code.length (byteAt code) = some memory)
    (denied : { mapped with memory }.call (.protect base length .readExec) =
      (.error errno, refused))
    (cleaned : refused.call (.unmap base length) = (reply, later)) :
    Leaves (lastErrorOfDiscard logging errno reply) (ofCode code) logging context
      (.error (.error (Mapping.classify .protect errno))) later
      [⟨.map length .readWrite, .ok base⟩, ⟨.protect base length .readExec, .error errno⟩,
        ⟨.unmap base length, reply⟩] := by
  have rounds' := rounds_after_map rounds called
  have samePage := (Host.call_extends denied).pageSize
  have finished : ∀ now : Context, now.host = mapped →
      Leaves errno (do (forCode base code).write 0 code; (forCode base code).makeExecutable) logging
        now (.error (.error (Mapping.classify .protect errno))) refused
        [⟨.protect base length .readExec, .error errno⟩] := by
    intro now same
    refine (ends_write_code logging fits same written).leaves.bind fun now same _ => ?_
    have ends : Ends (forCode base code).makeExecutable logging now
        (.error (.error (Mapping.classify .protect errno))) refused
        [⟨.protect base length .readExec, .error errno⟩] :=
      ends_makeExecutable_refused same rfl rounds' denied
    exact ends.leaves_errno (forCode base code).agrees_makeExecutable
      (Mapping.errno?_classify .protect errno)
  have discarded : ∀ now : Context, now.host = refused → now.lastError = errno →
      Leaves (lastErrorOfDiscard logging errno reply) (forCode base code).discard logging now
        (.ok ()) later [⟨.unmap base length, reply⟩] := by
    intro now same left
    rw [← left]
    exact leaves_discard same (samePage ▸ rounds') cleaned
  exact leaves_ofCode_error (ends_allocate rfl rounds called notNull) finished discarded

/-- Either the allocation stops, and then it has made one host call if its error carries a number,
or the host has mapped memory. -/
theorem allocate_stops_or_maps (logging : Logging) (context : Context) (size : UInt64) :
    (∃ stop host calls, Ends (allocate size) logging context (.error stop) host calls ∧
      ∀ error, stop = .error error → error.errno? ≠ none →
        ∃ length reply, calls = [⟨.map length .readWrite, reply⟩]) ∨
    ∃ length base host, mappingLength size context.host.pageSize = .ok (some length) ∧
      context.host.call (.map length .readWrite) = (.ok base, host) ∧ base ≠ 0 := by
  rcases rounding : mappingLength size context.host.pageSize with panic | (_ | length)
  · have stopped : Ends (Mapping.length size) logging context (.error (.panic panic)) context.host
        [] := by
      refine ⟨context.lastError, context.records, ?_⟩
      rw [Mapping.exec_length, rounding, List.append_nil]
    refine .inl ⟨_, _, _, stopped.bind_error.bind_error, ?_⟩
    intro error same
    cases same
  · refine .inl ⟨_, _, _, (Mapping.ends_length_tooLarge rfl rounding).bind_error.bind_error, ?_⟩
    intro error same carries
    cases same
    exact absurd rfl carries
  · rcases called : context.host.call (.map length .readWrite) with ⟨errno | base, host⟩
    · refine .inl ⟨_, _, _, (Mapping.ends_alloc_refused rfl rounding called).bind_error, ?_⟩
      exact fun _ _ _ => ⟨length, _, rfl⟩
    · by_cases null : base = 0
      · subst null
        obtain ⟨errno, ends⟩ := Mapping.ends_alloc_null logging rfl rounding called
        exact .inl ⟨_, _, _, ends.bind_error, fun _ _ _ => ⟨length, _, rfl⟩⟩
      · exact .inr ⟨length, base, host, rfl, called, null⟩

end Region

open Op in
/-- **The last error after a failure to build a region from code** is the number of the reported
error if no memory was mapped. If access to it was refused, the memory is given back, and the last
error is still that of the reported error only if the host takes the memory back and the logger
leaves the last error alone. -/
theorem lastError_of_ofCode_error {logging : Logging} {context later : Context} {code : List UInt8}
    {error : Error} {errno : Errno}
    (ran : (Region.ofCode code).exec logging context = (.error (.error error), later))
    (carries : error.errno? = some errno) :
    (∃ length reply, later.calls = context.calls ++ [⟨.map length .readWrite, reply⟩] ∧
      later.lastError = errno) ∨
    ∃ length base reply,
      later.calls = context.calls ++ [⟨.map length .readWrite, .ok base⟩,
        ⟨.protect base length .readExec, .error errno⟩, ⟨.unmap base length, reply⟩] ∧
      later.lastError = lastErrorOfDiscard logging errno reply := by
  rcases Region.allocate_stops_or_maps logging context (.ofNat code.length) with
    ⟨stop, host, calls, stopped, asked⟩ | ⟨length, base, mapped, rounds, called, notNull⟩
  · have whole : Ends (Region.ofCode code) logging context (.error stop) host calls :=
      stopped.bind_error
    cases (whole.leaves.of_exec ran).1
    obtain ⟨length, reply, rfl⟩ :=
      asked error rfl (by rw [carries]; exact Option.some_ne_none errno)
    have left : Leaves errno (Region.ofCode code) logging context _ host _ :=
      (stopped.leaves_errno (Region.agrees_allocate _) carries).bind_error
    exact .inl ⟨length, reply, (left.of_exec ran).2⟩
  -- of what can become of the region, only a refused change of access is an error with a number
  by_cases fits : code.length < UInt64.size
  · cases written : mapped.memory.write? base.toNat code.length (byteAt code) with
    | none =>
        have ends := Region.ends_ofCode_unwritable logging rfl rounds called notNull fits written
        cases (ends.leaves.of_exec ran).1
    | some memory =>
        rcases changed : { mapped with memory }.call (.protect base length .readExec) with
          ⟨refused | value, after⟩
        · rcases cleaned : after.call (.unmap base length) with ⟨reply, final⟩
          have left : Leaves _ (Region.ofCode code) logging context _ _ _ :=
            Region.leaves_ofCode_unprotected rounds called notNull fits written changed cleaned
          obtain ⟨reported, calls, lastError⟩ := left.of_exec ran
          cases reported
          cases (Mapping.errno?_classify .protect refused).symm.trans carries
          exact .inr ⟨length, base, reply, calls, lastError⟩
        · have ends :=
            Region.ends_ofCode_compiled logging rfl rounds called notNull fits written changed
          cases (ends.leaves.of_exec ran).1
  · rcases cleaned : mapped.call (.unmap base length) with ⟨reply, final⟩
    have ends := Region.ends_ofCode_overlong logging rfl rounds called notNull fits cleaned
    cases (ends.leaves.of_exec ran).1
    cases carries

/-- A host that refuses to change access, and then refuses to take memory back for another
reason. -/
def refusingHost : Host :=
  { Host.initial with plans :=
    [⟨0, .refuse .protect .accessDenied⟩, ⟨0, .refuse .unmap .invalidArgument⟩] }

theorem lastError_of_ofCode_error_refusingHost :
    ∃ later, (Region.ofCode [0xc3]).exec .silent (.start refusingHost .success) =
        (.error (.error (.unsupportedTransition .accessDenied)), later) ∧
      ∃ length base reply,
        later.calls = [⟨.map length .readWrite, .ok base⟩,
          ⟨.protect base length .readExec, .error .accessDenied⟩, ⟨.unmap base length, reply⟩] ∧
        later.lastError = lastErrorOfDiscard .silent .accessDenied reply := by
  have result : ((Region.ofCode [0xc3]).exec .silent (.start refusingHost .success)).1 =
      .error (.error (.unsupportedTransition .accessDenied)) := by rfl
  have three : ((Region.ofCode [0xc3]).exec .silent (.start refusingHost .success)).2.calls.length =
      3 := by decide +kernel
  rcases ran : (Region.ofCode [0xc3]).exec .silent (.start refusingHost .success) with
    ⟨answer, later⟩
  rw [ran] at result three
  cases result
  refine ⟨later, rfl, ?_⟩
  rcases lastError_of_ofCode_error ran rfl with ⟨_, _, calls, _⟩ | cleaned
  · rw [calls] at three
    cases three
  · exact cleaned

/-- The number that is reported can be lost, although the page size is a power of two and no fault
changes a length: here access is denied, and the last error says that an argument is wrong. -/
theorem ofCode_can_replace_lastError :
    ¬ ∀ (logging : Logging) (host : Host) (before : Errno) (code : List UInt8) (error : Error)
      (errno : Errno), host.pageSize.toNat.isPowerOfTwo → host.Plain →
      ((Region.ofCode code).exec logging (.start host before)).1 = .error (.error error) →
      error.errno? = some errno →
      ((Region.ofCode code).exec logging (.start host before)).2.lastError = errno := by
  intro always
  have plain : refusingHost.Plain := by
    unfold Host.Plain
    decide
  have left : ((Region.ofCode [0xc3]).exec .silent (.start refusingHost .success)).2.lastError =
      .invalidArgument := by decide +kernel
  have kept := always .silent refusingHost .success [0xc3] (.unsupportedTransition .accessDenied) _
    (by decide) plain (by rfl) rfl
  rw [left] at kept
  exact absurd kept (by decide)

end ExecMemory
