import ExecMemory.Proofs.Classification
import ExecMemory.Proofs.PageSizes

/-!
# Which sizes are interchangeable

A caller that passes another size than the one a mapping was requested with may be lucky. The
operations on mappings use the size for its length only, so two sizes of one length cannot be told
apart, and two sizes of different lengths are told apart by every operation.

* `mappingLength_eq_iff`: sizes have one length exactly if they take up the same number of pages. No
  bytes take up as many as one.
* `Op.Sized` lists the operations, each with the request that it makes for a length.
* `Op.Sized.exec_eq` compares two runs of an operation, and `Op.Sized.asks_once` says which request
  a run makes.
-/

namespace ExecMemory

/-! ## Sizes of one length -/

section Lengths

variable {page size other length otherLength : UInt64}

/-- The length is the number of pages, at least one, in bytes. -/
theorem toNat_length_eq (power : page.toNat.isPowerOfTwo)
    (rounds : mappingLength size page = .ok (some length)) :
    length.toNat = max 1 (size.toNat ⌈/⌉ page.toNat) * page.toNat := by
  have positive := pos_of_isPowerOfTwo power
  have value := toNat_mappingLength size power
  rw [rounds] at value
  change Except.ok (some length.toNat) = _ at value
  split at value
  · have sized : length.toNat = max (leastMultiple size.toNat page.toNat) page.toNat :=
      Option.some.inj (Except.ok.inj value)
    rw [sized, leastMultiple_eq_ceilDiv size.toNat positive, Nat.max_comm, ← Nat.mul_max_mul_right,
      Nat.one_mul]
  · cases value

/-- Two sizes have one length exactly if they take up the same number of pages, at least one. -/
theorem mappingLength_eq_iff (power : page.toNat.isPowerOfTwo)
    (rounds : mappingLength size page = .ok (some length))
    (roundsOther : mappingLength other page = .ok (some otherLength)) :
    mappingLength size page = mappingLength other page ↔
      max 1 (size.toNat ⌈/⌉ page.toNat) = max 1 (other.toNat ⌈/⌉ page.toNat) := by
  have value := toNat_length_eq power rounds
  have valueOther := toNat_length_eq power roundsOther
  rw [rounds, roundsOther]
  constructor
  · intro same
    cases same
    rw [value] at valueOther
    exact Nat.mul_right_cancel (pos_of_isPowerOfTwo power) valueOther
  · intro same
    rw [same, ← valueOther] at value
    rw [UInt64.toNat_inj.mp value]

/-- A length is its own length. -/
theorem mappingLength_length (power : page.toNat.isPowerOfTwo)
    (rounds : mappingLength size page = .ok (some length)) :
    mappingLength length page = .ok (some length) := by
  rw [mappingLength_of_dvd power power (Nat.dvd_refl _) rounds, rounds]

end Lengths

/-! ## Operations that are given a size -/

/-- The operations on a mapping that is there, as functions of its size, each with the request that
it makes for a length. -/
inductive Op.Sized : {α : Type} → (UInt64 → Op α) → (UInt64 → Request) → Prop
  | protect (address : UInt64) (flags : Flags) :
      Sized (fun size => Mapping.protect address size flags) fun length =>
        .protect address length flags.perms
  | makeExecutable (address : UInt64) :
      Sized (fun size => Mapping.makeExecutable address size) fun length =>
        .protect address length .readExec
  | release (address : UInt64) :
      Sized (fun size => Mapping.release address size) fun length => .unmap address length
  | makeExecutableInC (address : UInt64) :
      Sized (fun size => CInterface.makeExecutable address size) fun length =>
        .protect address length .readExec
  | freeInC (address : UInt64) :
      Sized (fun size => CInterface.free address size) fun length => .unmap address length

/-- Under the page size, no operation does anything else with one size than with the other: the
results, the host calls, the log, the last error and the host are the same. -/
def Interchangeable (page size other : UInt64) : Prop :=
  ∀ ⦃α : Type⦄ ⦃op : UInt64 → Op α⦄ ⦃request : UInt64 → Request⦄, Op.Sized op request →
    ∀ (logging : Logging) (context : Context), context.host.pageSize = page →
      (op size).exec logging context = (op other).exec logging context

section Runs

variable {α : Type} {logging : Logging} {context : Context} {size other length : UInt64}

/-- What follows the rounding goes on in the same context. -/
theorem Mapping.exec_length_bind
    (rounds : mappingLength size context.host.pageSize = .ok (some length)) (next : UInt64 → Op α) :
    Effect.exec (Mapping.length size >>= next) logging context =
      (next length).exec logging context := by
  rw [Effect.exec_bind, exec_length, rounds]

theorem CInterface.exec_status_congr {op op' : Op Unit}
    (same : op.exec logging context = op'.exec logging context) :
    (status op).exec logging context = (status op').exec logging context := by
  unfold status
  rw [Effect.exec_bind, Effect.exec_bind, exec_attempt, exec_attempt, same]

/-- Two sizes of one length make no difference. -/
theorem Op.Sized.exec_eq {op : UInt64 → Op α} {request : UInt64 → Request}
    (sized : Op.Sized op request)
    (rounds : mappingLength size context.host.pageSize = .ok (some length))
    (roundsOther : mappingLength other context.host.pageSize = .ok (some length)) :
    (op size).exec logging context = (op other).exec logging context := by
  have protects : ∀ address flags, (Mapping.protect address size flags).exec logging context =
      (Mapping.protect address other flags).exec logging context := by
    intro address flags
    unfold Mapping.protect
    rw [Mapping.exec_length_bind rounds, Mapping.exec_length_bind roundsOther]
  -- the size is rounded a second time when access changes
  have makesExecutable : ∀ address, (Mapping.makeExecutable address size).exec logging context =
      (Mapping.makeExecutable address other).exec logging context := by
    intro address
    unfold Mapping.makeExecutable
    rw [Mapping.exec_length_bind rounds, Mapping.exec_length_bind roundsOther]
    exact protects address .readExec
  have releases : ∀ address, (Mapping.release address size).exec logging context =
      (Mapping.release address other).exec logging context := by
    intro address
    unfold Mapping.release
    rw [Mapping.exec_length_bind rounds, Mapping.exec_length_bind roundsOther]
  cases sized with
  | protect address flags => exact protects address flags
  | makeExecutable address => exact makesExecutable address
  | release address => exact releases address
  | makeExecutableInC address => exact CInterface.exec_status_congr (makesExecutable address)
  | freeInC address => exact CInterface.exec_status_congr (releases address)

/-- An operation with one request makes it for the length of its size. -/
theorem Op.Asks.made {op : Op α} {request : UInt64 → Request}
    (asks : op.Asks logging context size request)
    (rounds : mappingLength size context.host.pageSize = .ok (some length)) :
    ∃ result host, (∀ panic, result ≠ .error (.panic panic)) ∧ result ≠ .error .fault ∧
      op.Ends logging context result host
        [⟨request length, (context.host.call (request length)).1⟩] := by
  rcases called : context.host.call (request length) with ⟨reply, later⟩
  cases succeeded : SysCall.succeeded ⟨request length, reply⟩ with
  | true =>
      obtain ⟨value, ends⟩ := asks.granted rounds called succeeded
      exact ⟨.ok value, later, nofun, nofun, ends⟩
  | false => exact ⟨.error (.error _), later, nofun, nofun, asks.refused rounds called succeeded⟩

theorem CInterface.ends_status {op : Op Unit} {result : Except Stop Unit} {host : Host}
    {calls : List SysCall} (ends : op.Ends logging context result host calls)
    (calm : ∀ panic, result ≠ .error (.panic panic))
    (kept : result ≠ .error .fault) :
    ∃ number, (status op).Ends logging context (.ok number) host calls := by
  rw [← List.append_nil calls]
  rcases result with (error | panic | _) | value
  · exact ⟨-1, ends.attempt.bind fun _ same => Op.ends_pure same _⟩
  · exact absurd rfl (calm panic)
  · exact absurd rfl kept
  · exact ⟨0, ends.attempt.bind fun _ same => Op.ends_pure same _⟩

/-- Every run makes exactly one request, for the length of its size. -/
theorem Op.Sized.asks_once {op : UInt64 → Op α} {request : UInt64 → Request}
    (sized : Op.Sized op request) (logging : Logging)
    (rounds : mappingLength size context.host.pageSize = .ok (some length)) :
    ((op size).exec logging context).2.calls =
      context.calls ++ [⟨request length, (context.host.call (request length)).1⟩] := by
  have calls :
      ∀ {β : Type} {op : Op β} {result : Except Stop β} {host : Host} {calls : List SysCall},
      op.Ends logging context result host calls →
        (op.exec logging context).2.calls = context.calls ++ calls := by
    rintro β op result host calls ⟨_, _, ran⟩
    rw [ran]
  have asksInC : ∀ {op : Op Unit} {request : UInt64 → Request},
      op.Asks logging context size request →
      ((CInterface.status op).exec logging context).2.calls =
        context.calls ++ [⟨request length, (context.host.call (request length)).1⟩] := by
    intro op request asks
    obtain ⟨_, _, calm, kept, ends⟩ := asks.made rounds
    obtain ⟨_, ends⟩ := CInterface.ends_status ends calm kept
    exact calls ends
  cases sized with
  | protect address flags =>
      obtain ⟨_, _, _, _, ends⟩ := (Mapping.asks_protect address size flags).made rounds
      exact calls ends
  | makeExecutable address =>
      obtain ⟨_, _, _, _, ends⟩ := (Mapping.asks_makeExecutable address size).made rounds
      exact calls ends
  | release address =>
      obtain ⟨_, _, _, _, ends⟩ := (Mapping.asks_release address size).made rounds
      exact calls ends
  | makeExecutableInC address => exact asksInC (Mapping.asks_makeExecutable address size)
  | freeInC address => exact asksInC (Mapping.asks_release address size)

end Runs

theorem Op.Sized.length_request {α : Type} {op : UInt64 → Op α} {request : UInt64 → Request}
    (sized : Op.Sized op request) (length : UInt64) : (request length).length = length := by
  cases sized <;> rfl

section Classes

variable {page size other length : UInt64} (power : page.toNat.isPowerOfTwo)
  (rounds : mappingLength size page = .ok (some length))
include rounds

theorem Interchangeable.of_length (roundsOther : mappingLength other page = .ok (some length)) :
    Interchangeable page size other := by
  rintro α op request sized logging context rfl
  exact sized.exec_eq rounds roundsOther

include power

/-- Sizes that cannot be told apart have one length: a release would tell. -/
theorem Interchangeable.length_eq (same : Interchangeable page size other) :
    mappingLength other page = .ok (some length) := by
  let context := Context.start { Host.initial with pageSize := page } .success
  have runs : ((Mapping.release 0 size).exec .silent context).2.calls =
      ((Mapping.release 0 other).exec .silent context).2.calls := by
    rw [same (.release 0) .silent context rfl]
  rw [(Op.Sized.release 0).asks_once .silent rounds] at runs
  rcases mappingLength_cases other power with overflows | ⟨otherLength, roundsOther⟩
  · obtain ⟨_, _, stopped⟩ := (@Mapping.asks_release .silent context 0 other).unrounded overflows
    rw [stopped] at runs
    cases runs
  · rw [(Op.Sized.release 0).asks_once .silent roundsOther] at runs
    cases runs
    exact roundsOther

end Classes

/-- **Which sizes are interchangeable.** Take two sizes that have a length under a page size which
is a power of two.

* Their lengths are equal exactly if they take up the same number of pages, where no bytes count as
  one page.
* If the lengths are equal, every operation on a mapping does the same with either size: on every
  host, for every address and all flags, whatever faults are planned and whatever is logged.
* If they are not, each operation makes one host call, and the two calls differ in their length.
* The length of a size is interchangeable with the size.
* The sizes that are interchangeable with none are those up to a page. -/
theorem interchangeable_sizes {page size other length otherLength : UInt64}
    (power : page.toNat.isPowerOfTwo) (rounds : mappingLength size page = .ok (some length))
    (roundsOther : mappingLength other page = .ok (some otherLength)) :
    (mappingLength size page = mappingLength other page ↔
      max 1 (size.toNat ⌈/⌉ page.toNat) = max 1 (other.toNat ⌈/⌉ page.toNat)) ∧
    (mappingLength size page = mappingLength other page → Interchangeable page size other) ∧
    (mappingLength size page ≠ mappingLength other page →
      ∀ ⦃α : Type⦄ ⦃op : UInt64 → Op α⦄ ⦃request : UInt64 → Request⦄, Op.Sized op request →
        ∀ (logging : Logging) (context : Context), context.host.pageSize = page →
          ∃ call otherCall : SysCall,
          ((op size).exec logging context).2.calls = context.calls ++ [call] ∧
          call.request = request length ∧
          ((op other).exec logging context).2.calls = context.calls ++ [otherCall] ∧
          otherCall.request = request otherLength ∧
          call.request.length ≠ otherCall.request.length) ∧
    Interchangeable page size length ∧
    ∀ few : UInt64, Interchangeable page 0 few ↔ few.toNat ≤ page.toNat := by
  refine ⟨mappingLength_eq_iff power rounds roundsOther, fun same => ?_, fun different => ?_, ?_,
    fun few => ?_⟩
  · exact .of_length rounds (same ▸ rounds)
  · rintro α op request sized logging context rfl
    refine ⟨_, _, sized.asks_once logging rounds, rfl, sized.asks_once logging roundsOther, rfl,
      fun same => ?_⟩
    rw [sized.length_request, sized.length_request] at same
    exact different (by rw [rounds, roundsOther, same])
  · exact .of_length rounds (mappingLength_length power rounds)
  · have none : mappingLength 0 page = .ok (some page) :=
      (mappingLength_eq_page_iff power).mpr (Nat.zero_le _)
    constructor
    · intro same
      exact (mappingLength_eq_page_iff power).mp (same.length_eq power none)
    · intro small
      exact .of_length none ((mappingLength_eq_page_iff power).mpr small)

/-- The last size of two pages and the first of three. -/
theorem interchangeable_sizes_boundary :
    mappingLength 8192 4096 = .ok (some 0x2000) ∧ mappingLength 8193 4096 = .ok (some 0x3000) ∧
    Interchangeable 4096 8193 0x3000 ∧ Interchangeable 4096 0 4096 ∧ ¬ Interchangeable 4096 0 4097 ∧
    ∃ call otherCall : SysCall,
      ((Mapping.release 0x10000000000 8192).exec .silent (.start .initial .success)).2.calls =
        [call] ∧
      ((Mapping.release 0x10000000000 8193).exec .silent (.start .initial .success)).2.calls =
        [otherCall] ∧
      call.request.length ≠ otherCall.request.length := by
  have two : mappingLength 8192 4096 = .ok (some 0x2000) := by decide +kernel
  have three : mappingLength 8193 4096 = .ok (some 0x3000) := by decide +kernel
  have power : (4096 : UInt64).toNat.isPowerOfTwo := ⟨12, rfl⟩
  obtain ⟨_, _, differ, _, _⟩ := interchangeable_sizes power two three
  obtain ⟨_, _, _, rounded, few⟩ := interchangeable_sizes power three two
  obtain ⟨call, otherCall, made, _, madeOther, _, lengths⟩ := differ (by rw [two, three]; decide)
    (.release 0x10000000000) .silent (.start .initial .success) rfl
  exact ⟨two, three, rounded, (few 4096).mpr (by decide),
    fun same => absurd ((few 4097).mp same) (by decide),
    call, otherCall, made, madeOther, lengths⟩

end ExecMemory
