import ExecMemory.Proofs.DemoStages
import ExecMemory.Proofs.InterfaceAgreement

/-!
# Which error means what

The error of an operation says what went wrong, exactly: each kind of error is reported if and only
if the check or the host call failed that the kind stands for.

* `SysCall.failure?` is what there is to report of a host call.
* `Op.Classifies` spells out, kind by kind, when an operation with a given `Task` reports an error.
* `Op.Asks` describes an operation that makes one host call; such an operation classifies its errors
  (`Op.Asks.classifies`). Making a region from code takes several calls
  (`Region.classifies_ofCode`).
* `Op.Checks` is the same for operations that only check and then touch memory.
-/

namespace ExecMemory

/-! ## What there is to report -/

/-- Of a call that failed: its kind, and the thread's last error right after it. -/
def SysCall.failure? (before : Errno) (call : SysCall) : Option (CallKind × Errno) :=
  if call.succeeded then none else some (call.request.kind, reportedErrno before call.reply)

theorem SysCall.failure?_of_succeeded {before : Errno} {call : SysCall}
    (succeeded : call.succeeded = true) :
    call.failure? before = none :=
  if_pos succeeded

theorem SysCall.failure?_of_failed {before : Errno} {call : SysCall}
    (failed : call.succeeded = false) :
    call.failure? before = some (call.request.kind, reportedErrno before call.reply) :=
  if_neg (Bool.eq_false_iff.mp failed)

/-- The number to report is the last error that the call leaves. -/
theorem SysCall.failure?_of_sysCall {request : Request} {context : Context} (logging : Logging)
    (failed : SysCall.succeeded ⟨request, (context.host.call request).1⟩ = false) :
    SysCall.failure? context.lastError ⟨request, (context.host.call request).1⟩ =
      some (request.kind, ((sysCall request).exec logging context).2.lastError) := by
  rw [failure?_of_failed failed, exec_sysCall]
  rcases context.host.call request with ⟨errno | value, host⟩ <;> rfl

theorem SysCall.succeeded_ok {request : Request} (fixed : request.kind ≠ .map) (value : UInt64) :
    SysCall.succeeded ⟨request, .ok value⟩ = true := by
  cases request with
  | map => exact absurd rfl fixed
  | protect | unmap => rfl

namespace Mapping

variable {kind : CallKind} {errno number : Errno}

theorem classify_eq_outOfMemory_iff :
    classify kind errno = .outOfMemory number ↔ (kind, errno) = (.map, number) := by
  cases kind <;> grind [classify]

theorem classify_eq_unsupportedTransition_iff :
    classify kind errno = .unsupportedTransition number ↔
      (kind, errno) = (.protect, number) ∧ (number = .notPermitted ∨ number = .accessDenied) := by
  cases kind <;> grind [classify]

theorem classify_eq_invalidRegion_iff :
    classify kind errno = .invalidRegion number ↔
      (kind, errno) = (.protect, number) ∧ ¬ (number = .notPermitted ∨ number = .accessDenied) ∨
        (kind, errno) = (.unmap, number) := by
  cases kind <;> grind [classify]

theorem classify_ne_cacheFlush : classify kind errno ≠ .cacheFlush number := by
  cases kind <;> grind [classify]

end Mapping

/-! ## Operations that make host calls -/

/-- What an operation sets out to do. -/
structure Task where
  /-- The region is not in the state that the operation needs. -/
  locked : Bool
  /-- The size that the operation rounds. -/
  size : UInt64
  /-- The kinds of host calls that the operation makes, in order. -/
  kinds : List CallKind
  /-- The first request, for a length. -/
  request? : UInt64 → Option Request

namespace Task

/-- To find a length. -/
def rounds (size : UInt64) : Task := ⟨false, size, [], fun _ => none⟩

/-- To make one request. -/
def asks (locked : Bool) (size : UInt64) (kind : CallKind) (request : UInt64 → Request) : Task :=
  ⟨locked, size, [kind], fun length => some (request length)⟩

/-- To map fresh memory. -/
def maps (size : UInt64) : Task := asks false size .map fun length => .map length .readWrite

/-- To change access. -/
def protects (locked : Bool) (address size : UInt64) (perms : Perms) : Task :=
  asks locked size .protect fun length => .protect address length perms

/-- To give memory back. -/
def unmaps (address size : UInt64) : Task :=
  asks false size .unmap fun length => .unmap address length

/-- To map fresh memory for code and to make it executable, or else to give it back. -/
def builds (code : List UInt8) : Task :=
  ⟨false, .ofNat code.length, [.map, .protect, .unmap], fun length => some (.map length .readWrite)⟩

end Task

/-- What a run of an operation comes to: the calls it made, and when it reported which error.
`failed` is the first of its calls that failed. -/
structure Classified {α : Type} (task : Task) (context : Context) (calls : List SysCall)
    (failed : Option (CallKind × Errno)) (ran : Except Stop α × Context) : Prop where
  -- the calls
  traced : ran.2.calls = context.calls ++ calls
  ordered : calls.map (·.request.kind) <+: task.kinds
  asked : ∀ length, task.locked = false →
    mappingLength task.size context.host.pageSize = .ok (some length) →
    calls.head? = (task.request? length).map fun request => ⟨request, (context.host.call request).1⟩
  failed_eq : calls.findSome? (SysCall.failure? context.lastError) = failed
  -- the checks
  invalidState : ran.1 = .error (.error .invalidState) ↔ task.locked = true
  untouched : task.locked = true → ran.2 = context
  tooLarge : ran.1 = .error (.error .tooLarge) ↔
    task.locked = false ∧ UInt64.size - context.host.pageSize.toNat < task.size.toNat
  uncalled : ran.1 = .error (.error .tooLarge) → calls = []
  -- the host's answers
  outOfMemory : ∀ errno, ran.1 = .error (.error (.outOfMemory errno)) ↔ failed = some (.map, errno)
  unsupportedTransition : ∀ errno, ran.1 = .error (.error (.unsupportedTransition errno)) ↔
    failed = some (.protect, errno) ∧ (errno = .notPermitted ∨ errno = .accessDenied)
  invalidRegion : ∀ errno, ran.1 = .error (.error (.invalidRegion errno)) ↔
    failed = some (.protect, errno) ∧ ¬ (errno = .notPermitted ∨ errno = .accessDenied) ∨
      failed = some (.unmap, errno)
  -- nothing else
  invalidArgument : ran.1 ≠ .error (.error .invalidArgument)
  cacheFlush : ∀ errno, ran.1 ≠ .error (.error (.cacheFlush errno))
  succeeds : (∃ value, ran.1 = .ok value) ↔ task.locked = false ∧
    ¬ UInt64.size - context.host.pageSize.toNat < task.size.toNat ∧ failed = none

/-- The operation reports its errors exactly. -/
def Op.Classifies {α : Type} (op : Op α) (task : Task) (logging : Logging) (context : Context) :
    Prop :=
  ∃ calls failed, Classified task context calls failed (op.exec logging context)

namespace Op

variable {α : Type} {op : Op α} {task : Task} {logging : Logging} {context : Context} {host : Host}
  {calls : List SysCall} {length : UInt64}

/-- The check of the state fails. -/
theorem classifies_locked (locked : task.locked = true)
    (ran : op.exec logging context = (.error (.error .invalidState), context)) :
    op.Classifies task logging context := by
  refine ⟨[], none, ?_⟩
  rw [ran]
  constructor <;> simp [locked]

/-- The size cannot be rounded. -/
theorem Ends.classifies_unrounded
    (ends : op.Ends logging context (.error (.error .tooLarge)) host [])
    (power : context.host.pageSize.toNat.isPowerOfTwo) (unlocked : task.locked = false)
    (overflows : mappingLength task.size context.host.pageSize = .ok none) :
    op.Classifies task logging context := by
  obtain ⟨lastError, records, ran⟩ := ends
  have large := (mappingLength_eq_none_iff task.size power).mp overflows
  refine ⟨[], none, ?_⟩
  rw [ran]
  constructor <;> simp [unlocked, large, overflows]

/-- The operation got as far as the host and made these calls. -/
structure Made (task : Task) (context : Context) (length : UInt64) (calls : List SysCall) :
    Prop where
  power : context.host.pageSize.toNat.isPowerOfTwo
  unlocked : task.locked = false
  rounds : mappingLength task.size context.host.pageSize = .ok (some length)
  ordered : calls.map (·.request.kind) <+: task.kinds
  asked : calls.head? = (task.request? length).map fun request =>
    ⟨request, (context.host.call request).1⟩

theorem Made.small (made : Made task context length calls) :
    ¬ UInt64.size - context.host.pageSize.toNat < task.size.toNat := by
  rw [← mappingLength_eq_none_iff task.size made.power, made.rounds]
  nofun

theorem Made.asked_eq (made : Made task context length calls) (other : UInt64)
    (rounds : mappingLength task.size context.host.pageSize = .ok (some other)) :
    calls.head? = (task.request? other).map fun request =>
      ⟨request, (context.host.call request).1⟩ := by
  cases made.rounds.symm.trans rounds
  exact made.asked

/-- Every call succeeds. -/
theorem Ends.classifies_ok {value : α} (ends : op.Ends logging context (.ok value) host calls)
    (made : Made task context length calls)
    (failed : calls.findSome? (SysCall.failure? context.lastError) = none) :
    op.Classifies task logging context := by
  obtain ⟨lastError, records, ran⟩ := ends
  refine ⟨calls, none, ?_⟩
  rw [ran]
  exact
    { traced := rfl
      ordered := made.ordered
      asked := fun other _ => made.asked_eq other
      failed_eq := failed
      invalidState := by simp [made.unlocked]
      untouched := by simp [made.unlocked]
      tooLarge := by simp [made.small]
      uncalled := nofun
      outOfMemory := by simp
      unsupportedTransition := by simp
      invalidRegion := by simp
      invalidArgument := nofun
      cacheFlush := nofun
      succeeds := by simp [made.unlocked, made.small] }

/-- A call fails, and its kind and number make the error. -/
theorem Ends.classifies_error {kind : CallKind} {errno : Errno}
    (ends : op.Ends logging context (.error (.error (Mapping.classify kind errno))) host calls)
    (made : Made task context length calls)
    (failed : calls.findSome? (SysCall.failure? context.lastError) = some (kind, errno)) :
    op.Classifies task logging context := by
  obtain ⟨lastError, records, ran⟩ := ends
  -- an error that the host caused carries a number
  have numbered : ∀ error : Error, error.errno? = none → Mapping.classify kind errno ≠ error := by
    rintro error without rfl
    rw [Mapping.errno?_classify] at without
    cases without
  refine ⟨calls, some (kind, errno), ?_⟩
  rw [ran]
  exact
    { traced := rfl
      ordered := made.ordered
      asked := fun other _ => made.asked_eq other
      failed_eq := failed
      invalidState := by simp [made.unlocked, numbered .invalidState rfl]
      untouched := by simp [made.unlocked]
      tooLarge := by simp [made.small, numbered .tooLarge rfl]
      uncalled := by simp [numbered .tooLarge rfl]
      outOfMemory := by simp [Mapping.classify_eq_outOfMemory_iff]
      unsupportedTransition := by simp [Mapping.classify_eq_unsupportedTransition_iff]
      invalidRegion := by simp [Mapping.classify_eq_invalidRegion_iff]
      invalidArgument := by simp [numbered .invalidArgument rfl]
      cacheFlush := by simp [Mapping.classify_ne_cacheFlush]
      succeeds := by simp }

/-! ### One request -/

/-- The operation rounds a size, makes one request and passes on what comes of it. -/
structure Asks (op : Op α) (logging : Logging) (context : Context) (size : UInt64)
    (request : UInt64 → Request) : Prop where
  unrounded : mappingLength size context.host.pageSize = .ok none →
    op.Ends logging context (.error (.error .tooLarge)) context.host []
  granted : ∀ {length reply later}, mappingLength size context.host.pageSize = .ok (some length) →
    context.host.call (request length) = (reply, later) →
      SysCall.succeeded ⟨request length, reply⟩ = true →
      ∃ value, op.Ends logging context (.ok value) later [⟨request length, reply⟩]
  refused : ∀ {length reply later}, mappingLength size context.host.pageSize = .ok (some length) →
    context.host.call (request length) = (reply, later) →
      SysCall.succeeded ⟨request length, reply⟩ = false →
      op.Ends logging context
        (.error (.error (Mapping.classify (request length).kind
          (reportedErrno context.lastError reply)))) later
        [⟨request length, reply⟩]

/-- Outside of mapping, a call succeeds unless the host gives an error number. -/
theorem asks_of_replies {size : UInt64} {request : UInt64 → Request}
    (fixed : ∀ length, (request length).kind ≠ .map)
    (unrounded : mappingLength size context.host.pageSize = .ok none →
      op.Ends logging context (.error (.error .tooLarge)) context.host [])
    (granted : ∀ {length value later},
      mappingLength size context.host.pageSize = .ok (some length) →
      context.host.call (request length) = (.ok value, later) →
        ∃ value', op.Ends logging context (.ok value') later [⟨request length, .ok value⟩])
    (refused : ∀ {length errno later},
      mappingLength size context.host.pageSize = .ok (some length) →
      context.host.call (request length) = (.error errno, later) →
        op.Ends logging context (.error (.error (Mapping.classify (request length).kind errno)))
          later [⟨request length, .error errno⟩]) :
    op.Asks logging context size request where
  unrounded := unrounded
  granted {length reply later} rounds called succeeded := by
    cases reply with
    | ok value => exact granted rounds called
    | error errno =>
        rw [SysCall.succeeded_error] at succeeded
        cases succeeded
  refused {length reply later} rounds called failed := by
    cases reply with
    | error errno => exact refused rounds called
    | ok value =>
        rw [SysCall.succeeded_ok (fixed length)] at failed
        cases failed

theorem Asks.andPure {size : UInt64} {request : UInt64 → Request}
    (asks : op.Asks logging context size request) {β : Type} (f : α → β) :
    Asks (op >>= fun value => pure (f value)) logging context size request where
  unrounded overflows := (asks.unrounded overflows).bind_error
  granted rounds called succeeded := by
    obtain ⟨value, ends⟩ := asks.granted rounds called succeeded
    exact ⟨f value, ends.bind fun _ same => ends_pure same _⟩
  refused rounds called failed := (asks.refused rounds called failed).bind_error

theorem Asks.classifies {size : UInt64} {request : UInt64 → Request} {kind : CallKind}
    (asks : op.Asks logging context size request) (power : context.host.pageSize.toNat.isPowerOfTwo)
    (kinds : ∀ length, (request length).kind = kind) :
    op.Classifies (.asks false size kind request) logging context := by
  rcases mappingLength_cases size power with overflows | ⟨length, rounds⟩
  · exact (asks.unrounded overflows).classifies_unrounded power rfl overflows
  · rcases called : context.host.call (request length) with ⟨reply, later⟩
    have made : Made (.asks false size kind request) context length [⟨request length, reply⟩] := by
      refine ⟨power, rfl, rounds, ?_, ?_⟩
      · rw [← kinds length]
        exact List.prefix_refl _
      · show some _ = some (SysCall.mk _ (context.host.call (request length)).1)
        rw [called]
    cases succeeded : SysCall.succeeded ⟨request length, reply⟩ with
    | true =>
        obtain ⟨value, ends⟩ := asks.granted rounds called succeeded
        refine ends.classifies_ok made ?_
        simp [SysCall.failure?_of_succeeded succeeded]
    | false =>
        refine (asks.refused rounds called succeeded).classifies_error made ?_
        simp [SysCall.failure?_of_failed succeeded]

end Op

namespace Mapping

open Op

variable {logging : Logging} {context : Context}

theorem classifies_length (power : context.host.pageSize.toNat.isPowerOfTwo) (size : UInt64) :
    (Mapping.length size).Classifies (.rounds size) logging context := by
  rcases mappingLength_cases size power with overflows | ⟨length, rounds⟩
  · exact (ends_length_tooLarge rfl overflows).classifies_unrounded power rfl overflows
  · exact (ends_length rfl rounds).classifies_ok ⟨power, rfl, rounds, List.prefix_refl _, rfl⟩ rfl

theorem asks_alloc (size : UInt64) :
    (alloc size).Asks logging context size fun length => .map length .readWrite where
  unrounded overflows := (ends_length_tooLarge rfl overflows).bind_error
  granted {length reply later} rounds called succeeded := by
    cases reply with
    | ok address => exact ⟨address, ends_alloc rfl rounds called (bne_iff_ne.mp succeeded)⟩
    | error errno => cases succeeded
  refused {length reply later} rounds called failed := by
    cases reply with
    | error errno => exact ends_alloc_refused rfl rounds called
    | ok address =>
        obtain rfl : address = 0 := bne_eq_false_iff_eq.mp failed
        obtain ⟨records, ran⟩ := @leaves_alloc_null logging context _ _ _ _ rfl rounds called
        exact ⟨_, records, ran⟩

theorem asks_protect (address size : UInt64) (flags : Flags) :
    (protect address size flags).Asks logging context size fun length =>
      .protect address length flags.perms :=
  asks_of_replies nofun (fun overflows => (ends_length_tooLarge rfl overflows).bind_error)
    (fun rounds called => ⟨(), ends_protect rfl rounds called⟩)
    (fun rounds called => ends_protect_refused rfl rounds called)

theorem asks_makeExecutable (address size : UInt64) :
    (makeExecutable address size).Asks logging context size fun length =>
      .protect address length .readExec :=
  asks_of_replies nofun (fun overflows => (ends_length_tooLarge rfl overflows).bind_error)
    (fun rounds called => ⟨(), ends_makeExecutable rfl rounds called⟩)
    (fun rounds called => ends_makeExecutable_refused rfl rounds called)

theorem asks_release (address size : UInt64) :
    (release address size).Asks logging context size fun length => .unmap address length :=
  asks_of_replies nofun (fun overflows => (ends_length_tooLarge rfl overflows).bind_error)
    (fun rounds called => ⟨(), ends_release rfl rounds called⟩)
    (fun rounds called => ends_release_refused rfl rounds called)

end Mapping

namespace Region

open Op

variable {logging : Logging} {context : Context}

theorem asks_allocate (size : UInt64) :
    (allocate size).Asks logging context size fun length => .map length .readWrite :=
  (Mapping.asks_alloc size).andPure fun address => (⟨address, size, .writable⟩ : Region)

theorem asks_makeExecutable {region : Region} (writable : region.state = .writable) :
    region.makeExecutable.Asks logging context region.size fun length =>
      .protect region.base length .readExec :=
  asks_of_replies nofun
    (fun overflows => (ends_requireWritable rfl writable).bind fun _ same =>
      (Mapping.ends_length_tooLarge same overflows).bind_error.bind_error)
    (fun rounds called => ⟨_, ends_makeExecutable rfl writable rounds called⟩)
    (fun rounds called => ends_makeExecutable_refused rfl writable rounds called)

theorem classifies_makeExecutable (power : context.host.pageSize.toNat.isPowerOfTwo)
    (region : Region) :
    region.makeExecutable.Classifies
      (.protects (region.state == .executable) region.base region.size .readExec) logging
      context := by
  cases state : region.state with
  | executable =>
      refine classifies_locked rfl ?_
      simp [makeExecutable, requireWritable, state]
  | writable => exact (asks_makeExecutable state).classifies power fun _ => rfl

/-- Of several calls, the first that fails makes the error: the last one only cleans up. Between
them the code is written, and that faults only if the memory was placed where no host places it. -/
theorem classifies_ofCode (power : context.host.pageSize.toNat.isPowerOfTwo) {code : List UInt8}
    (fits : code.length < UInt64.size) (plain : context.host.Plain) :
    (ofCode code).Classifies (.builds code) logging context ∨
      context.host.cursor % placement ≠ 0 ∧
        ((ofCode code).exec logging context).1 = .error .fault := by
  have allocates := @asks_allocate logging context (.ofNat code.length)
  rcases mappingLength_cases (.ofNat code.length) power with overflows | ⟨length, rounds⟩
  · exact .inl ((allocates.unrounded overflows).bind_error.classifies_unrounded power rfl overflows)
  rcases called : context.host.call (.map length .readWrite) with ⟨reply, mapped⟩
  have made : ∀ {more}, more.map (·.request.kind) <+: [.protect, .unmap] →
      Made (.builds code) context length (⟨.map length .readWrite, reply⟩ :: more) := by
    intro more ordered
    refine ⟨power, rfl, rounds, List.cons_prefix_cons.mpr ⟨rfl, ordered⟩, ?_⟩
    show some _ = some (SysCall.mk _ (context.host.call (.map length .readWrite)).1)
    rw [called]
  cases succeeded : SysCall.succeeded ⟨.map length .readWrite, reply⟩ with
  | false =>
      refine .inl ((allocates.refused rounds called succeeded).bind_error.classifies_error
        (made List.nil_prefix) ?_)
      simp [SysCall.failure?_of_failed succeeded]
  | true =>
      cases reply with
      | error errno => cases succeeded
      | ok base =>
          have notNull : base ≠ 0 := bne_iff_ne.mp succeeded
          have first := @SysCall.failure?_of_succeeded context.lastError _ succeeded
          cases written : mapped.memory.write? base.toNat code.length (byteAt code) with
          | none =>
              have covers := (mappingLength_eq_some power rounds).2
              rw [UInt64.toNat_ofNat_of_lt' fits] at covers
              refine .inr ⟨fun aligned => ?_, ?_⟩
              · have writes := plain.mapped_write aligned called notNull covers (byteAt code)
                rw [written] at writes
                cases writes
              · obtain ⟨_, _, ran⟩ :=
                  ends_ofCode_unwritable logging rfl rounds called notNull fits written
                rw [ran]
          | some memory =>
              left
              rcases changed : { mapped with memory }.call (.protect base length .readExec) with
                ⟨errno | value, changed'⟩
              · rcases cleaned : changed'.call (.unmap base length) with ⟨reply, later⟩
                have ends :=
                  ends_ofCode_unprotected logging rfl rounds called notNull fits written changed
                    cleaned
                refine ends.classifies_error (made (List.prefix_refl _)) ?_
                rw [List.findSome?_cons, first]
                rfl
              · have ends :=
                  ends_ofCode_compiled logging rfl rounds called notNull fits written changed
                refine ends.classifies_ok (made ⟨[.unmap], rfl⟩) ?_
                rw [List.findSome?_cons, first]
                rfl

end Region

/-! ## Operations that make no host calls -/

/-- The operation reports an error exactly if a check fails, and then it has done nothing. -/
structure Op.Checks {α : Type} (op : Op α) (locked outside : Prop) (logging : Logging)
    (context : Context) : Prop where
  invalidState : (op.exec logging context).1 = .error (.error .invalidState) ↔ locked
  invalidArgument : (op.exec logging context).1 = .error (.error .invalidArgument) ↔
    ¬ locked ∧ outside
  untouched : ∀ error, (op.exec logging context).1 = .error (.error error) →
    (error = .invalidState ∨ error = .invalidArgument) ∧ (op.exec logging context).2 = context

/-- The operation reports no errors. -/
def Op.Infallible {α : Type} (op : Op α) (logging : Logging) (context : Context) : Prop :=
  ∀ error, (op.exec logging context).1 ≠ .error (.error error)

namespace Op

variable {α : Type} {op : Op α} {locked outside : Prop} {logging : Logging} {context : Context}

theorem checks_locked (holds : locked)
    (ran : op.exec logging context = (.error (.error .invalidState), context)) :
    op.Checks locked outside logging context := by
  constructor <;> simp [ran, holds]

theorem checks_outside (unlocked : ¬ locked) (holds : outside)
    (ran : op.exec logging context = (.error (.error .invalidArgument), context)) :
    op.Checks locked outside logging context := by
  constructor <;> simp [ran, unlocked, holds]

theorem Infallible.checks (infallible : op.Infallible logging context) (unlocked : ¬ locked)
    (inside : ¬ outside) : op.Checks locked outside logging context where
  invalidState := iff_of_false (infallible _) unlocked
  invalidArgument := iff_of_false (infallible _) fun both => inside both.2
  untouched error failed := absurd failed (infallible error)

theorem infallible_store (start length : Nat) (content : Nat → UInt8) :
    (store start length content).Infallible logging context := by
  intro error
  rw [exec_store]
  split <;> nofun

end Op

namespace Region

variable {logging : Logging} {context : Context}

theorem checks_write (region : Region) (offset : UInt64) (bytes : List UInt8) :
    (region.write offset bytes).Checks (region.state = .executable)
      (region.size.toNat < offset.toNat + bytes.length) logging context := by
  cases state : region.state with
  | executable =>
      refine Op.checks_locked rfl ?_
      simp [write_eq, requireWritable, state]
  | writable =>
      by_cases inside : offset.toNat + bytes.length ≤ region.size.toNat
      · refine Op.Infallible.checks ?_ (by decide) (Nat.not_lt.mpr inside)
        have stores : (region.write offset bytes).exec logging context =
            (storeBytes (region.base.toNat + offset.toNat) bytes).exec logging context := by
          simp [write_eq, requireWritable, state, inside]
        intro error
        rw [stores]
        exact Op.infallible_store _ _ _ error
      · refine Op.checks_outside (by decide) (Nat.not_le.mp inside) ?_
        simp [write_eq, requireWritable, state, inside]

theorem checks_fill (region : Region) (value : UInt8) :
    (region.fill value).Checks (region.state = .executable) False logging context := by
  cases state : region.state with
  | executable =>
      refine Op.checks_locked rfl ?_
      simp [fill, requireWritable, state]
  | writable =>
      refine Op.Infallible.checks ?_ (by decide) id
      have stores : (region.fill value).exec logging context =
          (store region.base.toNat region.size.toNat fun _ => value).exec logging context := by
        simp [fill, requireWritable, state]
      intro error
      rw [stores]
      exact Op.infallible_store _ _ _ error

theorem infallible_mappedLength (region : Region) :
    region.mappedLength.Infallible logging context := by
  intro error
  rw [mappedLength, Effect.exec_bind, exec_attempt]
  rcases (Mapping.length region.size).exec logging context with
    ⟨(error | panic | _) | length, later⟩ <;> nofun

theorem infallible_discard (region : Region) : region.discard.Infallible logging context := by
  intro error
  rw [discard, Effect.exec_bind, exec_attempt]
  rcases region.free.exec logging context with ⟨(error | panic | _) | ⟨⟩, later⟩
  · simp [exec_emit]
  · nofun
  · nofun
  · nofun

theorem infallible_read (region : Region) (start stop : UInt64) :
    (region.read start stop).Infallible logging context := by
  intro error
  cases checked : checkRange start stop region.size with
  | error panic => simp [read, checked]
  | ok =>
      simp only [read, checked, Effect.exec_bind, exec_orPanic_ok, exec_load]
      split <;> nofun

end Region

/-- **Errors are classified exactly.** Take any host, whatever it has mapped and planned, that
reports a power of two as its page size, and any last error. For every operation that makes host
calls, which is to find a length, to map, to change access, to make executable, to release, and the
same for regions:

* a wrong state is reported if and only if the region is executable and has to be writable, and then
  nothing has happened at all;
* a size that is too large is reported if and only if that check passes and the size is less than a
  page away from the end of all numbers, and then there was no host call;
* the other errors stand for the first call that failed. It is out of memory if and only if that is
  a mapping, refused or at null, and the number is the thread's last error right after it. It is an
  unsupported transition if and only if that is a change of access, refused because it is not
  permitted or denied. It is an invalid region if and only if that is a change of access, refused
  for another reason, or a release, refused for whatever reason;
* if no check and no call fails, the operation succeeds.

All this holds of making a region from code too, where no fault is planned that changes a length:
the first call that failed is reported, whatever comes of the release that cleans up. Writing the
code can fault instead, but only where the cursor is off the grid of placements, and no call takes
it there.

Writing and filling report a wrong state or a wrong argument and nothing else, and then nothing has
happened. Reading, discarding, asking for the mapped length and flushing the instruction cache
report no error.

The number to report of a call that failed is the last error right after it, on any host. -/
theorem errors_are_classified (logging : Logging) {context : Context}
    (power : context.host.pageSize.toNat.isPowerOfTwo) :
    (∀ size, (Mapping.length size).Classifies (.rounds size) logging context) ∧
    (∀ size, (Mapping.alloc size).Classifies (.maps size) logging context) ∧
    (∀ address size flags, (Mapping.protect address size flags).Classifies
      (.protects false address size flags.perms) logging context) ∧
    (∀ address size, (Mapping.makeExecutable address size).Classifies
      (.protects false address size .readExec) logging context) ∧
    (∀ address size, (Mapping.release address size).Classifies (.unmaps address size) logging
      context) ∧
    (∀ size, (Region.allocate size).Classifies (.maps size) logging context) ∧
    (∀ region : Region, region.makeExecutable.Classifies
      (.protects (region.state == .executable) region.base region.size .readExec) logging context) ∧
    (∀ region : Region, region.free.Classifies (.unmaps region.base region.size) logging context) ∧
    (∀ code : List UInt8, code.length < UInt64.size → context.host.Plain →
      (Region.ofCode code).Classifies (.builds code) logging context ∨
        context.host.cursor % placement ≠ 0 ∧
          ((Region.ofCode code).exec logging context).1 = .error .fault) ∧
    (∀ (region : Region) (offset : UInt64) (bytes : List UInt8), (region.write offset bytes).Checks
      (region.state = .executable) (region.size.toNat < offset.toNat + bytes.length) logging
      context) ∧
    (∀ (region : Region) (value : UInt8),
      (region.fill value).Checks (region.state = .executable) False logging context) ∧
    (∀ (region : Region) (start stop : UInt64),
      (region.read start stop).Infallible logging context) ∧
    (∀ region : Region, region.discard.Infallible logging context) ∧
    (∀ region : Region, region.mappedLength.Infallible logging context) ∧
    (∀ address length, (Mapping.flushInstructionCache address length).Infallible logging context) ∧
    ∀ (request : Request) (now : Context),
      let call : SysCall := ⟨request, (now.host.call request).1⟩
      call.succeeded = false →
        call.failure? now.lastError =
          some (request.kind, ((sysCall request).exec logging now).2.lastError) := by
  refine ⟨Mapping.classifies_length power, fun size => ?_, fun address size flags => ?_,
    fun address size => ?_, fun address size => ?_, fun size => ?_,
    Region.classifies_makeExecutable power, fun region => ?_,
    fun code fits plain => Region.classifies_ofCode power fits plain, Region.checks_write,
    Region.checks_fill, Region.infallible_read, Region.infallible_discard,
    Region.infallible_mappedLength, nofun,
    fun request now => SysCall.failure?_of_sysCall logging⟩
  · exact (Mapping.asks_alloc size).classifies power fun _ => rfl
  · exact (Mapping.asks_protect address size flags).classifies power fun _ => rfl
  · exact (Mapping.asks_makeExecutable address size).classifies power fun _ => rfl
  · exact (Mapping.asks_release address size).classifies power fun _ => rfl
  · exact (Region.asks_allocate size).classifies power fun _ => rfl
  · exact (Mapping.asks_release region.base region.size).classifies power fun _ => rfl

theorem errors_are_classified_refusingHost :
    let ran := (Region.ofCode [0xc3]).exec .silent (.start refusingHost .success)
    refusingHost.pageSize.toNat.isPowerOfTwo ∧ refusingHost.Plain ∧
    ran.1 = .error (.error (.unsupportedTransition .accessDenied)) ∧
    ran.2.calls.map (·.request.kind) = [.map, .protect, .unmap] ∧
    ran.2.calls.findSome? (SysCall.failure? .success) = some (.protect, .accessDenied) := by
  have power : refusingHost.pageSize.toNat.isPowerOfTwo := by decide
  have plain : refusingHost.Plain := by
    unfold Host.Plain
    decide
  have kinds : ((Region.ofCode [0xc3]).exec .silent (.start refusingHost .success)).2.calls.map
      (·.request.kind) = [.map, .protect, .unmap] := by decide +kernel
  obtain ⟨_, _, _, _, _, _, _, _, builds, _⟩ :=
    @errors_are_classified .silent (.start refusingHost .success) power
  obtain ⟨calls, failed, classified⟩ | ⟨misplaced, _⟩ := builds [0xc3] (by decide) plain
  swap
  · exact absurd rfl misplaced
  have traced : _ = calls := classified.traced
  have result : ((Region.ofCode [0xc3]).exec .silent (.start refusingHost .success)).1 =
      .error (.error (.unsupportedTransition .accessDenied)) := by rfl
  obtain ⟨denied, _⟩ := (classified.unsupportedTransition _).mp result
  refine ⟨power, plain, result, kinds, ?_⟩
  rw [traced, ← denied]
  exact classified.failed_eq

end ExecMemory
