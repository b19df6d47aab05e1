import ExecMemory.Operation

/-!
# Mappings

The operations on memory that the caller keeps track of: allocate a mapping, change the access to
it, make it executable, release it. The caller passes the requested size to each of them, and each
computes the number of bytes from it anew with the page size the host reports at that moment.

When the host refuses a request, the operation logs the refusal, puts the error number back as the
thread's last error (a logger may have changed it) and stops with the error that fits the kind of
request.
-/

namespace ExecMemory.Mapping

/-- The error for a refused request. A refused change of access is told apart by the number: it is
either forbidden or the range is wrong. -/
def classify (kind : CallKind) (errno : Errno) : Error :=
  match kind with
  | .map => .outOfMemory errno
  | .protect =>
    if errno = .notPermitted ∨ errno = .accessDenied then .unsupportedTransition errno
    else .invalidRegion errno
  | .unmap => .invalidRegion errno

/-- Stops because the host refused a request; the reason is the thread's last error. -/
def refused {α : Type} (kind : CallKind) (address length : UInt64) : Op α := do
  let errno ← lastError
  emit (.refused kind length address errno)
  setLastError errno
  fail (classify kind errno)

/-- The number of bytes mapped for a request of `size` bytes. -/
def length (size : UInt64) : Op UInt64 := do
  match ← orPanic (mappingLength size (← pageSize)) with
  | some length => return length
  | none =>
    emit (.cannotRound size)
    setLastError .outOfMemory
    fail .tooLarge

/-- Maps at least `size` bytes of zeroed memory for reading and writing and returns its address. A
request of no bytes maps one page. -/
def alloc (size : UInt64) : Op UInt64 := do
  let length ← length size
  match ← sysCall (.map length Flags.readWrite.perms) with
  | .ok address =>
    if address = 0 then refused .map 0 length
    else
      emit (.mapped length address)
      return address
  | .error _ => refused .map 0 length

/-- Changes the access to the mapping at `address`. -/
def protect (address size : UInt64) (flags : Flags) : Op Unit := do
  let length ← length size
  match ← sysCall (.protect address length flags.perms) with
  | .ok _ => emit (.reprotected length address flags)
  | .error _ => refused .protect address length

/-- Makes the instruction cache agree with memory. The processor does that by itself, so there is
nothing to do. -/
def flushInstructionCache (_address _length : UInt64) : Op Unit := pure ()

/-- Makes the mapping at `address` executable; it is no longer writable afterwards. -/
def makeExecutable (address size : UInt64) : Op Unit := do
  let length ← length size
  flushInstructionCache address length
  protect address size .readExec

/-- Gives the mapping at `address` back to the host. -/
def release (address size : UInt64) : Op Unit := do
  let length ← length size
  match ← sysCall (.unmap address length) with
  | .ok _ => emit (.unmapped length address)
  | .error _ => refused .unmap address length

/-! ## How the common parts run -/

/-- A refusal leaves the last error as it found it, whatever the logger does. -/
theorem exec_refused {α : Type} (kind : CallKind) (address length : UInt64) (logging : Logging)
    (context : Context) :
    Effect.exec (refused kind address length : Op α) logging context =
      (.error (.error (classify kind context.lastError)),
        { (Effect.exec (emit (.refused kind length address context.lastError))
            logging context).2 with lastError := context.lastError }) := by
  simp [refused, exec_emit]

/-- The length is that of the page size reported now. Only a size without a rounding leaves a
trace. -/
theorem exec_length (size : UInt64) (logging : Logging) (context : Context) :
    Effect.exec (length size) logging context =
      match mappingLength size context.host.pageSize with
      | .error panic => (.error (.panic panic), context)
      | .ok (some length) => (.ok length, context)
      | .ok none =>
        (.error (.error .tooLarge),
          { (Effect.exec (emit (.cannotRound size)) logging context).2 with
            lastError := .outOfMemory }) := by
  simp only [length, Effect.exec_bind, exec_pageSize]
  rcases mappingLength size context.host.pageSize with panic | _ | length <;> simp [exec_emit]

end ExecMemory.Mapping
