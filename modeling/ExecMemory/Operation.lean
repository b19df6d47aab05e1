import ExecMemory.Effect
import ExecMemory.Host.Basic
import ExecMemory.Rounding

/-!
# Operations

An operation runs in one thread on a host. It reads and changes a `Context` (the host, the thread's
last error, and the trace of what the operation did) and either returns a value or stops early. What
it did before it stopped stays done.

* `Op` is an operation of the library: its state is a `Context`, its reason to stop a `Stop`.
* `sysCall`, `emit`, `load`, `store` and the rest are the primitive operations.
* `attempt` turns an error of an operation into a value; panics and faults pass through.
* `Effect.ofOp` runs an operation as a part of a larger computation.

Each primitive has an `exec_*` lemma that says what it does to the context.
-/

namespace ExecMemory

/-- What a running operation sees and changes. -/
structure Context where
  host : Host
  /-- The last error of the thread the operation runs in. -/
  lastError : Errno
  /-- The host calls made so far, in order. -/
  calls : List SysCall
  /-- The log records produced so far, in order. -/
  records : List Record

/-- The context of an operation that begins. -/
def Context.start (host : Host) (lastError : Errno) : Context := ⟨host, lastError, [], []⟩

/-- Why an operation stops early. -/
inductive Stop where
  /-- The request cannot be met. -/
  | error (error : Error)
  /-- An assumption of the program is broken. -/
  | panic (panic : Panic)
  /-- A byte was accessed that its page does not allow. -/
  | fault
  deriving DecidableEq

/-- An operation of the library. -/
abbrev Op := Effect Context Stop

/-- The page size the host reports. It is asked on every use. -/
def pageSize : Op UInt64 := do
  return (← get).host.pageSize

/-- The thread's last error. -/
def lastError : Op Errno := do
  return (← get).lastError

/-- Overwrites the thread's last error. -/
def setLastError (errno : Errno) : Op Unit :=
  modify fun context => { context with lastError := errno }

/-- Produces a log record, if its level is shown. -/
def emit (record : Record) : Op Unit := do
  let logging ← read
  if logging.shows record.level then
    modify fun context =>
      { context with
        records := context.records ++ [record]
        lastError := logging.clobber.getD context.lastError }

/-- Makes a host call. A failure becomes the thread's last error, a success leaves it alone. -/
def sysCall (request : Request) : Op Reply := do
  let context ← get
  let (reply, host) := context.host.call request
  let lastError := match reply with
    | .ok _ => context.lastError
    | .error errno => errno
  set { context with host, lastError, calls := context.calls ++ [SysCall.mk request reply] }
  return reply

/-- Continues with a value that may be a panic instead. -/
def orPanic {α : Type} : Except Panic α → Op α
  | .ok value => pure value
  | .error panic => throw (.panic panic)

/-- Stops with an error. -/
def fail {α : Type} (error : Error) : Op α := throw (.error error)

/-- Reads a range of memory. -/
def load (start length : Nat) : Op (List UInt8) := do
  match (← get).host.memory.read? start length with
  | some bytes => return bytes
  | none => throw .fault

/-- Writes a range of memory, the `i`-th byte being `content i`. -/
def store (start length : Nat) (content : Nat → UInt8) : Op Unit := do
  let context ← get
  match context.host.memory.write? start length content with
  | some memory => set { context with host := { context.host with memory } }
  | none => throw .fault

/-- Writes bytes to memory. -/
def storeBytes (start : Nat) (bytes : List UInt8) : Op Unit :=
  let content := bytes.toArray
  store start bytes.length fun i => content.getD i 0

/-- Runs an operation and turns an error into a value. -/
def attempt {α : Type} (op : Op α) : Op (Except Error α) :=
  tryCatch (Except.ok <$> op) fun
    | .error error => pure (.error error)
    | stop => throw stop

/-- Runs an operation as part of a computation with further state and further reasons to stop. -/
def Effect.ofOp {S ε α : Type} (wrap : Stop → ε) (op : Op α) : Effect (Context × S) ε α :=
  fun logging => ExceptT.mk fun (context, state) =>
    let (result, later) := op.exec logging context
    (match result with
      | .ok value => .ok value
      | .error stop => .error (wrap stop),
     (later, state))

/-! ## How the primitive operations run -/

@[simp]
theorem exec_pageSize (logging : Logging) (context : Context) :
    Effect.exec pageSize logging context = (.ok context.host.pageSize, context) := rfl

@[simp]
theorem exec_lastError (logging : Logging) (context : Context) :
    Effect.exec lastError logging context = (.ok context.lastError, context) := rfl

@[simp]
theorem exec_setLastError (errno : Errno) (logging : Logging) (context : Context) :
    Effect.exec (setLastError errno) logging context =
      (.ok (), { context with lastError := errno }) := rfl

/-- A record below the level leaves no trace; any other is recorded and may clobber the last
error. -/
theorem exec_emit (record : Record) (logging : Logging) (context : Context) :
    Effect.exec (emit record) logging context =
      (.ok (),
        if logging.shows record.level then
          { context with
            records := context.records ++ [record]
            lastError := logging.clobber.getD context.lastError }
        else context) := by
  cases shown : logging.shows record.level <;> simp [emit, shown]

/-- The reply is the host's; the call is recorded with it. -/
theorem exec_sysCall (request : Request) (logging : Logging) (context : Context) :
    Effect.exec (sysCall request) logging context =
      let (reply, host) := context.host.call request
      (.ok reply,
        { host
          lastError := match reply with
            | .ok _ => context.lastError
            | .error errno => errno
          calls := context.calls ++ [⟨request, reply⟩]
          records := context.records }) := rfl

@[simp]
theorem exec_fail {α : Type} (error : Error) (logging : Logging) (context : Context) :
    Effect.exec (fail error : Op α) logging context = (.error (.error error), context) := rfl

@[simp]
theorem exec_orPanic_ok {α : Type} (value : α) (logging : Logging) (context : Context) :
    Effect.exec (orPanic (.ok value)) logging context = (.ok value, context) := rfl

@[simp]
theorem exec_orPanic_error {α : Type} (panic : Panic) (logging : Logging) (context : Context) :
    Effect.exec (orPanic (.error panic) : Op α) logging context =
      (.error (.panic panic), context) := rfl

/-- Reading changes nothing; it faults where memory cannot be read. -/
theorem exec_load (start length : Nat) (logging : Logging) (context : Context) :
    Effect.exec (load start length) logging context =
      match context.host.memory.read? start length with
      | some bytes => (.ok bytes, context)
      | none => (.error .fault, context) := by
  cases found : context.host.memory.read? start length <;> simp [load, found]

/-- Writing changes only the memory; it faults where memory cannot be written. -/
theorem exec_store (start length : Nat) (content : Nat → UInt8) (logging : Logging)
    (context : Context) :
    Effect.exec (store start length content) logging context =
      match context.host.memory.write? start length content with
      | some memory => (.ok (), { context with host := { context.host with memory } })
      | none => (.error .fault, context) := by
  cases found : context.host.memory.write? start length content <;> simp [store, found]

/-- Only an error becomes a value, and the context is the one the operation leaves. -/
theorem exec_attempt {α : Type} (op : Op α) (logging : Logging) (context : Context) :
    Effect.exec (attempt op) logging context =
      match Effect.exec op logging context with
      | (.ok value, later) => (.ok (.ok value), later)
      | (.error (.error error), later) => (.ok (.error error), later)
      | (.error stop, later) => (.error stop, later) := by
  rw [attempt, Effect.exec_tryCatch, Effect.exec_map]
  rcases Effect.exec op logging context with ⟨stop | value, later⟩
  · cases stop <;> rfl
  · rfl

/-- The operation runs on the context part of the state and leaves the rest alone. -/
theorem exec_ofOp {S ε α : Type} (wrap : Stop → ε) (op : Op α) (logging : Logging)
    (context : Context) (state : S) :
    Effect.exec (Effect.ofOp wrap op) logging (context, state) =
      match Effect.exec op logging context with
      | (.ok value, later) => (.ok value, (later, state))
      | (.error stop, later) => (.error (wrap stop), (later, state)) := by
  simp only [Effect.exec, Effect.ofOp, ExceptT.mk]
  rcases op logging context with ⟨_ | _, _⟩ <;> rfl

end ExecMemory
