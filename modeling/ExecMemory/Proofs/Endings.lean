import ExecMemory.Region

/-!
# How operations end

`Op.Ends` says how an operation ends as far as memory is concerned: its result, the host it leaves
and the host calls it made. The thread's last error and the log are left open. The rules of this
module compose such endings, and for each operation on mappings and regions there is one ending per
way the host can answer. They are statements about any host, so nothing is said here about *when*
the host answers how.
-/

namespace ExecMemory

/-- Run from `context`, the operation gives `result`, leaves `host` and makes `calls`. -/
def Op.Ends {α : Type} (op : Op α) (logging : Logging) (context : Context)
    (result : Except Stop α) (host : Host) (calls : List SysCall) : Prop :=
  ∃ lastError records,
    op.exec logging context = (result, ⟨host, lastError, context.calls ++ calls, records⟩)

/-- What no host call takes back: the reported page size stays, what was handed out stays on record,
and the cursor does not go back. -/
structure Host.Extends (host later : Host) : Prop where
  pageSize : later.pageSize = host.pageSize
  placed : ∀ span ∈ host.placed, span ∈ later.placed
  cursor : host.cursor ≤ later.cursor
  cursor_mod : later.cursor % placement = host.cursor % placement

theorem Host.Extends.refl (host : Host) : host.Extends host :=
  ⟨rfl, fun _ member => member, Nat.le_refl _, rfl⟩

theorem Host.serve_extends (host : Host) (request : Request) :
    host.Extends (host.serve request).2 := by
  have unchanged := Extends.refl host
  cases request with
  | map length perms =>
      show host.Extends (host.map length perms).2
      unfold Host.map
      split
      · exact unchanged
      · refine ⟨rfl, fun _ member => List.mem_append_left _ member, Nat.le_add_right _ _, ?_⟩
        show (host.cursor + stride length) % placement = host.cursor % placement
        unfold stride placement
        omega
  | protect address length perms =>
      show host.Extends (host.protect address length perms).2
      unfold Host.protect
      split
      · split
        · exact ⟨rfl, unchanged.placed, unchanged.cursor, rfl⟩
        · exact unchanged
      · exact unchanged
  | unmap address length =>
      show host.Extends (host.unmap address length).2
      unfold Host.unmap
      split
      · exact ⟨rfl, unchanged.placed, unchanged.cursor, rfl⟩
      · exact unchanged

theorem Host.call_extends {host later : Host} {request : Request} {reply : Reply}
    (called : host.call request = (reply, later)) : host.Extends later := by
  have kept : host.Extends (host.call request).2 := by
    unfold Host.call
    rcases Plan.take request.kind host.plans with ⟨fault, plans⟩
    -- the plans play no part, so what `serve` keeps of `{ host with plans }` it keeps of `host`
    have served : ∀ request, host.Extends ({ host with plans }.serve request).2 := fun request =>
      have kept := Host.serve_extends { host with plans } request
      ⟨kept.pageSize, kept.placed, kept.cursor, kept.cursor_mod⟩
    have unchanged : host.Extends { host with plans } :=
      ⟨rfl, fun _ member => member, Nat.le_refl _, rfl⟩
    rcases fault with _ | (_ | length | _)
    · exact served request
    · exact unchanged
    · exact served (request.withLength length)
    · exact unchanged
  rw [called] at kept
  exact kept

/-- The bytes of a list, by their position, as `storeBytes` takes them. -/
abbrev byteAt (bytes : List UInt8) (i : Nat) : UInt8 := bytes.toArray.getD i 0

namespace Op

variable {α β : Type} {logging : Logging} {context : Context} {before host after : Host}
  {calls more : List SysCall}

theorem ends_pure (same : context.host = host) (value : α) :
    Ends (pure value) logging context (.ok value) host [] := by
  refine ⟨context.lastError, context.records, ?_⟩
  rw [Effect.exec_pure, List.append_nil, ← same]

theorem ends_throw (same : context.host = host) (stop : Stop) :
    Ends (throw stop : Op α) logging context (.error stop) host [] := by
  refine ⟨context.lastError, context.records, ?_⟩
  rw [Effect.exec_throw, List.append_nil, ← same]

theorem ends_emit (same : context.host = host) (record : Record) :
    Ends (emit record) logging context (.ok ()) host [] := by
  unfold Ends
  rw [exec_emit, List.append_nil, ← same]
  split
  · exact ⟨_, _, rfl⟩
  · exact ⟨_, _, rfl⟩

/-- There is a context from which the rest runs, and its host is the one the first part left. -/
theorem Ends.continues {op : Op α} {value : α}
    (first : Ends op logging context (.ok value) host calls) :
    ∃ later : Context, later.host = host ∧
      ∀ {next : α → Op β} {result : Except Stop β} {after : Host} {more : List SysCall},
        Ends (next value) logging later result after more →
          Ends (op >>= next) logging context result after (calls ++ more) := by
  obtain ⟨lastError, records, ran⟩ := first
  refine ⟨⟨host, lastError, context.calls ++ calls, records⟩, rfl, ?_⟩
  rintro next result after more ⟨lastError', records', ran'⟩
  refine ⟨lastError', records', ?_⟩
  rw [Effect.exec_bind, ran]
  show Effect.exec (next value) logging _ = _
  rw [ran', List.append_assoc]

/-- The second part runs from wherever the first one ended; only the host is known there. -/
theorem Ends.bind {op : Op α} {next : α → Op β} {value : α} {result : Except Stop β}
    (first : Ends op logging context (.ok value) host calls)
    (second : ∀ later : Context, later.host = host →
      Ends (next value) logging later result after more) :
    Ends (op >>= next) logging context result after (calls ++ more) := by
  obtain ⟨later, same, run⟩ := first.continues
  exact run (second later same)

theorem Ends.bind_error {op : Op α} {next : α → Op β} {stop : Stop}
    (first : Ends op logging context (.error stop) host calls) :
    Ends (op >>= next) logging context (.error stop) host calls := by
  obtain ⟨lastError, records, ran⟩ := first
  refine ⟨lastError, records, ?_⟩
  rw [Effect.exec_bind, ran]

/-- The outcome of an attempt: an error becomes a value, anything else stays. -/
def attempted : Except Stop α → Except Stop (Except Error α)
  | .ok value => .ok (.ok value)
  | .error (.error error) => .ok (.error error)
  | .error stop => .error stop

theorem Ends.attempt {op : Op α} {result : Except Stop α}
    (ends : Ends op logging context result host calls) :
    Ends (attempt op) logging context (attempted result) host calls := by
  obtain ⟨lastError, records, ran⟩ := ends
  refine ⟨lastError, records, ?_⟩
  rw [exec_attempt, ran]
  rcases result with (error | panic) | value <;> rfl

/-! ## Memory -/

theorem ends_load (same : context.host = host) (start length : Nat) :
    Ends (load start length) logging context
      (match host.memory.read? start length with
        | some bytes => .ok bytes
        | none => .error .fault) host [] := by
  refine ⟨context.lastError, context.records, ?_⟩
  subst same
  rw [exec_load, List.append_nil]
  cases context.host.memory.read? start length with
  | some bytes => rfl
  | none => rfl

theorem ends_load_fault {start length : Nat} (same : context.host = host)
    (refused : host.memory.read? start length = none) :
    Ends (load start length) logging context (.error .fault) host [] := by
  refine ⟨context.lastError, context.records, ?_⟩
  rw [exec_load, same, refused, List.append_nil, ← same]

theorem ends_store {start length : Nat} {content : Nat → UInt8} {memory : Memory}
    (same : context.host = host)
    (written : host.memory.write? start length content = some memory) :
    Ends (store start length content) logging context (.ok ()) { host with memory } [] := by
  refine ⟨context.lastError, context.records, ?_⟩
  rw [exec_store, same, written, List.append_nil]

theorem ends_store_fault {start length : Nat} {content : Nat → UInt8}
    (same : context.host = host)
    (refused : host.memory.write? start length content = none) :
    Ends (store start length content) logging context (.error .fault) host [] := by
  refine ⟨context.lastError, context.records, ?_⟩
  rw [exec_store, same, refused, List.append_nil, ← same]

theorem ends_storeBytes {start : Nat} {bytes : List UInt8} {memory : Memory}
    (same : context.host = host)
    (written : host.memory.write? start bytes.length (byteAt bytes) =
      some memory) :
    Ends (storeBytes start bytes) logging context (.ok ()) { host with memory } [] :=
  ends_store same written

/-! ## Host calls

What follows a refused call can rely on the last error, which is then the number of the call. -/

theorem ends_sysCall {request : Request} {reply : Reply} (same : context.host = before)
    (called : before.call request = (reply, host)) :
    Ends (sysCall request) logging context (.ok reply) host [⟨request, reply⟩] := by
  unfold Ends
  rw [exec_sysCall, same, called]
  exact ⟨_, _, rfl⟩

theorem Ends.sysCall_error {request : Request} {errno : Errno} {next : Reply → Op α}
    {result : Except Stop α} (same : context.host = before)
    (called : before.call request = (.error errno, host))
    (second : ∀ later : Context, later.host = host → later.lastError = errno →
      Ends (next (.error errno)) logging later result after more) :
    Ends (sysCall request >>= next) logging context result after
      (⟨request, .error errno⟩ :: more) := by
  obtain ⟨lastError, records, ran⟩ :=
    second ⟨host, errno, context.calls ++ [⟨request, .error errno⟩], context.records⟩ rfl rfl
  refine ⟨lastError, records, ?_⟩
  rw [Effect.exec_bind, exec_sysCall, same, called]
  show Effect.exec (next (.error errno)) logging _ = _
  rw [ran, List.append_assoc, List.singleton_append]

end Op

/-! ## Operations on mappings -/

namespace Mapping

open Op

variable {logging : Logging} {context : Context} {before host : Host}
  {size length address value : UInt64} {errno : Errno}

/-- A refusal reports the last error it found. -/
theorem ends_refused {α : Type} (same : context.host = host) (kind : CallKind)
    (address length : UInt64) :
    Ends (refused kind address length : Op α) logging context
      (.error (.error (classify kind context.lastError))) host [] := by
  obtain ⟨lastError, records, ran⟩ :=
    @ends_emit logging context host same (.refused kind length address context.lastError)
  refine ⟨context.lastError, records, ?_⟩
  rw [exec_refused, ran]

theorem ends_length (same : context.host = host)
    (rounds : mappingLength size host.pageSize = .ok (some length)) :
    Ends (Mapping.length size) logging context (.ok length) host [] := by
  refine ⟨context.lastError, context.records, ?_⟩
  rw [exec_length, same, rounds, List.append_nil, ← same]

theorem ends_length_tooLarge (same : context.host = host)
    (overflows : mappingLength size host.pageSize = .ok none) :
    Ends (Mapping.length size) logging context (.error (.error .tooLarge)) host [] := by
  obtain ⟨lastError, records, ran⟩ := @ends_emit logging context host same (.cannotRound size)
  refine ⟨.outOfMemory, records, ?_⟩
  rw [exec_length, same, overflows, ran]

theorem ends_alloc (same : context.host = before)
    (rounds : mappingLength size before.pageSize = .ok (some length))
    (called : before.call (.map length .readWrite) = (.ok address, host))
    (notNull : address ≠ 0) :
    Ends (alloc size) logging context (.ok address) host
      [⟨.map length .readWrite, .ok address⟩] := by
  refine (ends_length same rounds).bind fun _ same => ?_
  refine (ends_sysCall same called).bind fun _ same => ?_
  simp only [if_neg notNull]
  exact (ends_emit same _).bind fun _ same => ends_pure same address

/-- A null address counts as a refusal, and the number it reports is whatever the last error was. -/
theorem ends_alloc_null (logging : Logging) (same : context.host = before)
    (rounds : mappingLength size before.pageSize = .ok (some length))
    (called : before.call (.map length .readWrite) = (.ok 0, host)) :
    ∃ errno, Ends (alloc size) logging context (.error (.error (.outOfMemory errno))) host
      [⟨.map length .readWrite, .ok 0⟩] := by
  have first : Ends (Mapping.length size) logging context (.ok length) before [] :=
    ends_length same rounds
  obtain ⟨middle, same, run⟩ := first.continues
  have second : Ends (sysCall (.map length .readWrite)) logging middle (.ok (.ok 0)) host
      [⟨.map length .readWrite, .ok 0⟩] := ends_sysCall same called
  obtain ⟨later, same, run'⟩ := second.continues
  exact ⟨later.lastError, run (run' (ends_refused same .map 0 length))⟩

theorem ends_alloc_refused (same : context.host = before)
    (rounds : mappingLength size before.pageSize = .ok (some length))
    (called : before.call (.map length .readWrite) = (.error errno, host)) :
    Ends (alloc size) logging context (.error (.error (.outOfMemory errno))) host
      [⟨.map length .readWrite, .error errno⟩] := by
  refine (ends_length same rounds).bind fun _ same => ?_
  refine Ends.sysCall_error same called fun _ same number => ?_
  subst number
  exact ends_refused same .map 0 length

theorem ends_protect {flags : Flags} (same : context.host = before)
    (rounds : mappingLength size before.pageSize = .ok (some length))
    (called : before.call (.protect address length flags.perms) = (.ok value, host)) :
    Ends (protect address size flags) logging context (.ok ()) host
      [⟨.protect address length flags.perms, .ok value⟩] := by
  refine (ends_length same rounds).bind fun _ same => ?_
  exact (ends_sysCall same called).bind fun _ same => ends_emit same _

theorem ends_protect_refused {flags : Flags} (same : context.host = before)
    (rounds : mappingLength size before.pageSize = .ok (some length))
    (called : before.call (.protect address length flags.perms) = (.error errno, host)) :
    Ends (protect address size flags) logging context
      (.error (.error (classify .protect errno))) host
      [⟨.protect address length flags.perms, .error errno⟩] := by
  refine (ends_length same rounds).bind fun _ same => ?_
  refine Ends.sysCall_error same called fun _ same number => ?_
  subst number
  exact ends_refused same .protect address length

theorem ends_release (same : context.host = before)
    (rounds : mappingLength size before.pageSize = .ok (some length))
    (called : before.call (.unmap address length) = (.ok value, host)) :
    Ends (release address size) logging context (.ok ()) host
      [⟨.unmap address length, .ok value⟩] := by
  refine (ends_length same rounds).bind fun _ same => ?_
  exact (ends_sysCall same called).bind fun _ same => ends_emit same _

theorem ends_release_refused (same : context.host = before)
    (rounds : mappingLength size before.pageSize = .ok (some length))
    (called : before.call (.unmap address length) = (.error errno, host)) :
    Ends (release address size) logging context (.error (.error (.invalidRegion errno))) host
      [⟨.unmap address length, .error errno⟩] := by
  refine (ends_length same rounds).bind fun _ same => ?_
  refine Ends.sysCall_error same called fun _ same number => ?_
  subst number
  exact ends_refused same .unmap address length

theorem ends_makeExecutable (same : context.host = before)
    (rounds : mappingLength size before.pageSize = .ok (some length))
    (called : before.call (.protect address length .readExec) = (.ok value, host)) :
    Ends (makeExecutable address size) logging context (.ok ()) host
      [⟨.protect address length .readExec, .ok value⟩] := by
  refine (ends_length same rounds).bind fun _ same => ?_
  exact (ends_pure same ()).bind fun _ same =>
    ends_protect same rounds called

theorem ends_makeExecutable_refused (same : context.host = before)
    (rounds : mappingLength size before.pageSize = .ok (some length))
    (called : before.call (.protect address length .readExec) = (.error errno, host)) :
    Ends (makeExecutable address size) logging context
      (.error (.error (classify .protect errno))) host
      [⟨.protect address length .readExec, .error errno⟩] := by
  refine (ends_length same rounds).bind fun _ same => ?_
  exact (ends_pure same ()).bind fun _ same =>
    ends_protect_refused same rounds called

end Mapping

/-! ## Operations on regions -/

namespace Region

open Op

variable {logging : Logging} {context : Context} {before host after : Host} {region : Region}
  {size length address value : UInt64} {errno : Errno} {calls more : List SysCall}

theorem ends_requireWritable (same : context.host = host) (writable : region.state = .writable) :
    Ends region.requireWritable logging context (.ok ()) host [] := by
  unfold requireWritable
  rw [writable]
  exact ends_pure same ()

theorem ends_requireWritable_executable (same : context.host = host)
    (executable : region.state = .executable) :
    Ends region.requireWritable logging context (.error (.error .invalidState)) host [] := by
  unfold requireWritable
  rw [executable]
  exact ends_throw same (.error .invalidState)

theorem ends_allocate (same : context.host = before)
    (rounds : mappingLength size before.pageSize = .ok (some length))
    (called : before.call (.map length .readWrite) = (.ok address, host))
    (notNull : address ≠ 0) :
    Ends (allocate size) logging context (.ok ⟨address, size, .writable⟩) host
      [⟨.map length .readWrite, .ok address⟩] :=
  (Mapping.ends_alloc same rounds called notNull).bind fun _ same => ends_pure same _

theorem ends_mappedLength (same : context.host = host)
    (rounds : mappingLength region.size host.pageSize = .ok (some length)) :
    Ends region.mappedLength logging context (.ok length) host [] :=
  (Mapping.ends_length same rounds).attempt.bind fun _ same => ends_pure same length

theorem ends_read (same : context.host = host) {start stop : UInt64}
    (inside : checkRange start stop region.size = .ok ()) :
    Ends (region.read start stop) logging context
      (match host.memory.read? (region.base.toNat + start.toNat) (stop.toNat - start.toNat) with
        | some bytes => .ok bytes
        | none => .error .fault) host [] := by
  unfold Region.read
  rw [inside]
  exact (ends_pure same ()).bind fun _ same => ends_load same _ _

theorem ends_read_panic (same : context.host = host) {start stop : UInt64} {panic : Panic}
    (outside : checkRange start stop region.size = .error panic) :
    Ends (region.read start stop) logging context (.error (.panic panic)) host [] := by
  unfold Region.read
  rw [outside]
  exact (ends_throw same (.panic panic)).bind_error

theorem ends_write {offset : UInt64} {bytes : List UInt8} {memory : Memory}
    (same : context.host = host) (writable : region.state = .writable)
    (inside : offset.toNat + bytes.length ≤ region.size.toNat)
    (written : host.memory.write? (region.base.toNat + offset.toNat) bytes.length
      (byteAt bytes) = some memory) :
    Ends (region.write offset bytes) logging context (.ok ()) { host with memory } [] := by
  rw [Region.write_eq]
  refine (ends_requireWritable same writable).bind fun _ same => ?_
  rw [if_pos inside]
  exact ends_store same written

theorem ends_write_fault {offset : UInt64} {bytes : List UInt8}
    (same : context.host = host) (writable : region.state = .writable)
    (inside : offset.toNat + bytes.length ≤ region.size.toNat)
    (refused : host.memory.write? (region.base.toNat + offset.toNat) bytes.length
      (byteAt bytes) = none) :
    Ends (region.write offset bytes) logging context (.error .fault) host [] := by
  rw [Region.write_eq]
  refine (ends_requireWritable same writable).bind fun _ same => ?_
  rw [if_pos inside]
  exact ends_store_fault same refused

theorem ends_write_outside {offset : UInt64} {bytes : List UInt8}
    (same : context.host = host) (writable : region.state = .writable)
    (outside : ¬ offset.toNat + bytes.length ≤ region.size.toNat) :
    Ends (region.write offset bytes) logging context (.error (.error .invalidArgument)) host
      [] := by
  rw [Region.write_eq]
  refine (ends_requireWritable same writable).bind fun _ same => ?_
  rw [if_neg outside]
  exact ends_throw same (.error .invalidArgument)

theorem ends_fill {byte : UInt8} {memory : Memory}
    (same : context.host = host) (writable : region.state = .writable)
    (written : host.memory.write? region.base.toNat region.size.toNat (fun _ => byte) =
      some memory) :
    Ends (region.fill byte) logging context (.ok ()) { host with memory } [] :=
  (ends_requireWritable same writable).bind fun _ same => ends_store same written

theorem ends_fill_fault {byte : UInt8}
    (same : context.host = host) (writable : region.state = .writable)
    (refused : host.memory.write? region.base.toNat region.size.toNat (fun _ => byte) = none) :
    Ends (region.fill byte) logging context (.error .fault) host [] :=
  (ends_requireWritable same writable).bind fun _ same => ends_store_fault same refused

theorem ends_makeExecutable (same : context.host = before) (writable : region.state = .writable)
    (rounds : mappingLength region.size before.pageSize = .ok (some length))
    (called : before.call (.protect region.base length .readExec) = (.ok value, host)) :
    Ends region.makeExecutable logging context (.ok { region with state := .executable }) host
      [⟨.protect region.base length .readExec, .ok value⟩] := by
  refine (ends_requireWritable same writable).bind fun _ same => ?_
  exact (Mapping.ends_makeExecutable same rounds called).bind fun _ same => ends_pure same _

theorem ends_makeExecutable_refused (same : context.host = before)
    (writable : region.state = .writable)
    (rounds : mappingLength region.size before.pageSize = .ok (some length))
    (called : before.call (.protect region.base length .readExec) = (.error errno, host)) :
    Ends region.makeExecutable logging context
      (.error (.error (Mapping.classify .protect errno))) host
      [⟨.protect region.base length .readExec, .error errno⟩] := by
  refine (ends_requireWritable same writable).bind fun _ same => ?_
  exact (Mapping.ends_makeExecutable_refused same rounds called).bind_error

theorem ends_discard {reply : Reply} (same : context.host = before)
    (rounds : mappingLength region.size before.pageSize = .ok (some length))
    (called : before.call (.unmap region.base length) = (reply, host)) :
    Ends region.discard logging context (.ok ()) host [⟨.unmap region.base length, reply⟩] := by
  cases reply with
  | ok value =>
      exact (Mapping.ends_release same rounds called).attempt.bind fun _ same =>
        ends_pure same ()
  | error errno =>
      exact (Mapping.ends_release_refused same rounds called).attempt.bind fun _ same =>
        ends_emit same _

/-! `ofCode` allocates, then tries to finish the region, then cleans up if that failed. -/

variable {code : List UInt8} {middle : Host} {rest : List SysCall}

theorem ends_ofCode {executable : Region}
    (allocated : Ends (allocate (.ofNat code.length)) logging context (.ok region) host calls)
    (finished : ∀ later : Context, later.host = host →
      Ends (do region.write 0 code; region.makeExecutable) logging later
        (.ok executable) after more) :
    Ends (ofCode code) logging context (.ok executable) after (calls ++ more) := by
  refine allocated.bind fun later same => ?_
  rw [← List.append_nil more]
  exact (finished later same).attempt.bind fun _ same => ends_pure same executable

theorem ends_ofCode_error {error : Error}
    (allocated : Ends (allocate (.ofNat code.length)) logging context (.ok region) host calls)
    (finished : ∀ later : Context, later.host = host →
      Ends (do region.write 0 code; region.makeExecutable) logging later
        (.error (.error error)) middle more)
    (discarded : ∀ later : Context, later.host = middle →
      Ends region.discard logging later (.ok ()) after rest) :
    Ends (ofCode code) logging context (.error (.error error)) after
      (calls ++ (more ++ rest)) := by
  refine allocated.bind fun later same => ?_
  refine (finished later same).attempt.bind fun later same => ?_
  rw [← List.append_nil rest]
  exact (discarded later same).bind fun _ same => ends_throw same (.error error)

theorem ends_ofCode_fault
    (allocated : Ends (allocate (.ofNat code.length)) logging context (.ok region) host calls)
    (finished : ∀ later : Context, later.host = host →
      Ends (do region.write 0 code; region.makeExecutable) logging later
        (.error .fault) after more) :
    Ends (ofCode code) logging context (.error .fault) after (calls ++ more) :=
  allocated.bind fun later same => (finished later same).attempt.bind_error

/-! The four ways in which `ofCode` goes on once memory is mapped. -/

variable {base : UInt64} {mapped refused later : Host} {memory : Memory} {reply : Reply}
  (logging : Logging) (same : context.host = before)
  (rounds : mappingLength (.ofNat code.length) before.pageSize = .ok (some length))
  (called : before.call (.map length .readWrite) = (.ok base, mapped)) (notNull : base ≠ 0)

include rounds called in
/-- The length is the same when it is computed again. -/
theorem rounds_after_map :
    mappingLength (.ofNat code.length) mapped.pageSize = .ok (some length) := by
  rw [(Host.call_extends called).pageSize]
  exact rounds

theorem zero_add_length_le_iff (code : List UInt8) :
    (0 : UInt64).toNat + code.length ≤ (UInt64.ofNat code.length).toNat ↔
      code.length < UInt64.size := by
  constructor
  · intro inside
    have bound := (UInt64.ofNat code.length).toNat_lt_size
    have zero : (0 : UInt64).toNat = 0 := rfl
    omega
  · intro fits
    rw [UInt64.toNat_ofNat_of_lt' fits]
    exact Nat.le_of_eq (Nat.zero_add _)

/-- The new region that a piece of code goes into. -/
abbrev forCode (base : UInt64) (code : List UInt8) : Region := ⟨base, .ofNat code.length, .writable⟩

/-- Writing the code into the new region. -/
theorem ends_write_code (fits : code.length < UInt64.size) (same : context.host = mapped)
    (written : mapped.memory.write? base.toNat code.length (byteAt code) = some memory) :
    Ends ((forCode base code).write 0 code) logging context (.ok ())
      { mapped with memory } [] :=
  ends_write same rfl ((zero_add_length_le_iff code).mpr fits) written

include same rounds called notNull

theorem ends_ofCode_compiled (fits : code.length < UInt64.size)
    (written : mapped.memory.write? base.toNat code.length (byteAt code) = some memory)
    (changed : { mapped with memory }.call (.protect base length .readExec) = (.ok value, later)) :
    Ends (ofCode code) logging context (.ok ⟨base, .ofNat code.length, .executable⟩) later
      [⟨.map length .readWrite, .ok base⟩, ⟨.protect base length .readExec, .ok value⟩] := by
  have rounds' := rounds_after_map rounds called
  refine ends_ofCode (ends_allocate same rounds called notNull) fun _ same => ?_
  refine (ends_write_code logging fits same written).bind fun _ same => ?_
  exact ends_makeExecutable same rfl rounds' changed

theorem ends_ofCode_unprotected (fits : code.length < UInt64.size)
    (written : mapped.memory.write? base.toNat code.length (byteAt code) = some memory)
    (denied : { mapped with memory }.call (.protect base length .readExec) =
      (.error errno, refused))
    (cleaned : refused.call (.unmap base length) = (reply, later)) :
    Ends (ofCode code) logging context (.error (.error (Mapping.classify .protect errno))) later
      [⟨.map length .readWrite, .ok base⟩, ⟨.protect base length .readExec, .error errno⟩,
        ⟨.unmap base length, reply⟩] := by
  have rounds' := rounds_after_map rounds called
  have samePage := (Host.call_extends denied).pageSize
  have finished : ∀ later' : Context, later'.host = mapped →
      Ends (do (forCode base code).write 0 code; (forCode base code).makeExecutable) logging later'
        (.error (.error (Mapping.classify .protect errno))) refused
        [⟨.protect base length .readExec, .error errno⟩] :=
    fun _ same => (ends_write_code logging fits same written).bind fun _ same =>
      ends_makeExecutable_refused same rfl rounds' denied
  have discarded : ∀ later' : Context, later'.host = refused →
      Ends (forCode base code).discard logging later' (.ok ()) later
        [⟨.unmap base length, reply⟩] :=
    fun _ same => ends_discard same (samePage ▸ rounds') cleaned
  exact ends_ofCode_error (ends_allocate same rounds called notNull) finished discarded

theorem ends_ofCode_overlong (tooLong : ¬ code.length < UInt64.size)
    (cleaned : mapped.call (.unmap base length) = (reply, later)) :
    Ends (ofCode code) logging context (.error (.error .invalidArgument)) later
      [⟨.map length .readWrite, .ok base⟩, ⟨.unmap base length, reply⟩] := by
  have finished : ∀ later' : Context, later'.host = mapped →
      Ends (do (forCode base code).write 0 code; (forCode base code).makeExecutable) logging later'
        (.error (.error .invalidArgument)) mapped [] :=
    fun _ same =>
      (ends_write_outside same rfl (mt (zero_add_length_le_iff code).mp tooLong)).bind_error
  have discarded : ∀ later' : Context, later'.host = mapped →
      Ends (forCode base code).discard logging later' (.ok ()) later
        [⟨.unmap base length, reply⟩] :=
    fun _ same => ends_discard same (rounds_after_map rounds called) cleaned
  exact ends_ofCode_error (ends_allocate same rounds called notNull) finished discarded

theorem ends_ofCode_unwritable (fits : code.length < UInt64.size)
    (unwritten : mapped.memory.write? base.toNat code.length (byteAt code) = none) :
    Ends (ofCode code) logging context (.error .fault) mapped
      [⟨.map length .readWrite, .ok base⟩] := by
  have faults : ∀ later : Context, later.host = mapped →
      Ends ((forCode base code).write 0 code) logging later
        (.error .fault) mapped [] :=
    fun _ same => ends_write_fault same rfl ((zero_add_length_le_iff code).mpr fits) unwritten
  exact ends_ofCode_fault (ends_allocate same rounds called notNull)
    fun later same => (faults later same).bind_error

end Region

/-- Calling code changes nothing, whatever comes of it. -/
theorem ends_callCode (logging : Logging) (context : Context) (address : UInt64) (x y : Int32) :
    ∃ result, Op.Ends (callCode address x y) logging context result context.host [] := by
  unfold callCode
  have first : Op.Ends (get : Op Context) logging context (.ok context) context.host [] := by
    refine ⟨context.lastError, context.records, ?_⟩
    rw [Effect.exec_get, List.append_nil]
  cases ran : execute context.host.memory.fetch? x y address.toNat 0 with
  | some result =>
      refine ⟨.ok result, first.bind fun later same => ?_⟩
      rw [ran]
      exact Op.ends_pure same result
  | none =>
      refine ⟨.error .fault, first.bind fun later same => ?_⟩
      rw [ran]
      exact Op.ends_throw same .fault

end ExecMemory
