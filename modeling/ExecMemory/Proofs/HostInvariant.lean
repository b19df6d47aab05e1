import ExecMemory.Script.Machine

/-!
# Properties of the host that every script keeps

The library touches the host in two ways only: it makes host calls, and it writes bytes. A script
can also plan faults and change the reported page size. So a property of the host that these four
keep is kept by every operation, every step and every run, whatever the step answers and however it
stops.

* `Effect.Keeps` says that a computation keeps a property of its state.
* `HostInvariant` collects what has to be shown about a property.
* `HostInvariant.step` and `HostInvariant.run` lift it to steps and to scripts of any length.

A script decides about permissions at one point, the flags of an explicit change of access. The
predicate `ok` stands for what is assumed of those (`Step.Within`).
-/

namespace ExecMemory

/-! ## Computations that keep a property -/

/-- The computation keeps a property of its state, also when it stops early. -/
def Effect.Keeps {S ε α : Type} (P : S → Prop) (effect : Effect S ε α) : Prop :=
  ∀ logging state, P state → P (effect.exec logging state).2

section Keeps

variable {S ε α β : Type} {P : S → Prop}

theorem keeps_pure (value : α) : Effect.Keeps P (pure value : Effect S ε α) :=
  fun _ _ holds => holds

theorem keeps_throw (reason : ε) : Effect.Keeps P (throw reason : Effect S ε α) :=
  fun _ _ holds => holds

theorem keeps_get : Effect.Keeps P (get : Effect S ε S) :=
  fun _ _ holds => holds

theorem keeps_modify {f : S → S} (keeps : ∀ state, P state → P (f state)) :
    Effect.Keeps P (modify f : Effect S ε PUnit) :=
  fun _ state holds => keeps state holds

theorem keeps_bind {effect : Effect S ε α} {next : α → Effect S ε β}
    (first : effect.Keeps P) (second : ∀ value, (next value).Keeps P) :
    Effect.Keeps P (effect >>= next) := by
  intro logging state holds
  have between := first logging state holds
  rw [Effect.exec_bind]
  revert between
  rcases effect.exec logging state with ⟨reason | value, later⟩ <;> intro between
  · exact between
  · exact second value logging later between

end Keeps

/-! ## Operations -/

/-- The request asks for fresh memory to read and write, for permissions that satisfy `ok`, or for
nothing new at all. -/
def Request.Within (ok : Perms → Prop) : Request → Prop
  | .map _ perms => perms = .readWrite
  | .protect _ _ perms => ok perms
  | .unmap .. => True

/-- A property of the host that survives everything that a script can do to it, as long as access is
only changed to permissions that satisfy `ok`. -/
structure HostInvariant (ok : Perms → Prop) (I : Host → Prop) : Prop where
  call : ∀ host request, request.Within ok → I host → I (host.call request).2
  write : ∀ host start length content memory,
    host.memory.write? start length content = some memory → I host → I { host with memory }
  plan : ∀ host plan, I host → I { host with plans := host.plans ++ [plan] }
  pageSize : ∀ host size, I host → I { host with pageSize := size }

/-- An operation keeps a property of the host. -/
abbrev Op.Keeps {α : Type} (I : Host → Prop) (op : Op α) : Prop :=
  Effect.Keeps (fun context : Context => I context.host) op

section Operations

variable {α : Type} {I : Host → Prop}

theorem keeps_pageSize : Op.Keeps I pageSize := fun _ _ holds => holds

theorem keeps_lastError : Op.Keeps I lastError := fun _ _ holds => holds

theorem keeps_setLastError (errno : Errno) : Op.Keeps I (setLastError errno) :=
  fun _ _ holds => holds

theorem keeps_fail (error : Error) : Op.Keeps I (fail error : Op α) := fun _ _ holds => holds

theorem keeps_emit (record : Record) : Op.Keeps I (emit record) := by
  intro logging context holds
  rw [exec_emit]
  show I (if _ then _ else _ : Context).host
  split
  · exact holds
  · exact holds

theorem keeps_orPanic (value : Except Panic α) : Op.Keeps I (orPanic value) := by
  cases value with
  | ok value => exact keeps_pure value
  | error panic => exact keeps_throw (Stop.panic panic)

theorem keeps_load (start length : Nat) : Op.Keeps I (load start length) := by
  intro logging context holds
  rw [exec_load]
  split
  · exact holds
  · exact holds

theorem keeps_attempt {op : Op α} (keeps : Op.Keeps I op) : Op.Keeps I (attempt op) := by
  intro logging context holds
  have after := keeps logging context holds
  rw [exec_attempt]
  revert after
  rcases op.exec logging context with ⟨(error | panic) | value, later⟩ <;> exact id

theorem keeps_callCode (address : UInt64) (x y : Int32) : Op.Keeps I (callCode address x y) := by
  unfold callCode
  refine keeps_bind keeps_get fun context => ?_
  split
  · exact keeps_pure _
  · exact keeps_throw _

theorem keeps_refused (kind : CallKind) (address length : UInt64) :
    Op.Keeps I (Mapping.refused kind address length : Op α) := by
  unfold Mapping.refused
  refine keeps_bind keeps_lastError fun errno => ?_
  refine keeps_bind (keeps_emit _) fun _ => ?_
  refine keeps_bind (keeps_setLastError errno) fun _ => ?_
  exact keeps_fail _

theorem keeps_length (size : UInt64) : Op.Keeps I (Mapping.length size) := by
  unfold Mapping.length
  refine keeps_bind keeps_pageSize fun pageSize => ?_
  refine keeps_bind (keeps_orPanic _) fun length? => ?_
  cases length? with
  | some length => exact keeps_pure length
  | none =>
      refine keeps_bind (keeps_emit _) fun _ => ?_
      refine keeps_bind (keeps_setLastError _) fun _ => ?_
      exact keeps_fail _

theorem keeps_mappedLength (region : Region) : Op.Keeps I region.mappedLength := by
  unfold Region.mappedLength
  refine keeps_bind (keeps_attempt (keeps_length region.size)) fun length => ?_
  cases length with
  | ok length => exact keeps_pure length
  | error error => exact keeps_pure region.size

theorem keeps_requireWritable (region : Region) : Op.Keeps I region.requireWritable := by
  unfold Region.requireWritable
  cases region.state with
  | writable => exact keeps_pure ()
  | executable => exact keeps_fail .invalidState

theorem keeps_read (region : Region) (start stop : UInt64) :
    Op.Keeps I (region.read start stop) := by
  unfold Region.read
  exact keeps_bind (keeps_orPanic _) fun _ => keeps_load _ _

end Operations

namespace HostInvariant

variable {ok : Perms → Prop} {I : Host → Prop} (inv : HostInvariant ok I)
include inv

theorem keeps_sysCall (request : Request) (within : request.Within ok) :
    Op.Keeps I (sysCall request) := by
  intro logging context holds
  rw [exec_sysCall]
  exact inv.call context.host request within holds

theorem keeps_store (start length : Nat) (content : Nat → UInt8) :
    Op.Keeps I (store start length content) := by
  intro logging context holds
  rw [exec_store]
  cases written : context.host.memory.write? start length content with
  | none => exact holds
  | some memory => exact inv.write context.host start length content memory written holds

theorem keeps_storeBytes (start : Nat) (bytes : List UInt8) : Op.Keeps I (storeBytes start bytes) :=
  inv.keeps_store _ _ _

theorem keeps_alloc (size : UInt64) : Op.Keeps I (Mapping.alloc size) := by
  unfold Mapping.alloc
  refine keeps_bind (keeps_length size) fun length => ?_
  refine keeps_bind (inv.keeps_sysCall (.map length _) Flags.perms_readWrite) fun reply => ?_
  cases reply with
  | error errno => exact keeps_refused _ _ _
  | ok address =>
      by_cases null : address = 0
      · simp only [if_pos null]
        exact keeps_refused _ _ _
      · simp only [if_neg null]
        exact keeps_bind (keeps_emit _) fun _ => keeps_pure address

theorem keeps_protect (address size : UInt64) {flags : Flags} (allowed : ok flags.perms) :
    Op.Keeps I (Mapping.protect address size flags) := by
  unfold Mapping.protect
  refine keeps_bind (keeps_length size) fun length => ?_
  refine keeps_bind (inv.keeps_sysCall (.protect address length _) allowed) fun reply => ?_
  cases reply with
  | error errno => exact keeps_refused _ _ _
  | ok value => exact keeps_emit _

theorem keeps_release (address size : UInt64) : Op.Keeps I (Mapping.release address size) := by
  unfold Mapping.release
  refine keeps_bind (keeps_length size) fun length => ?_
  refine keeps_bind (inv.keeps_sysCall (.unmap address length) trivial) fun reply => ?_
  cases reply with
  | error errno => exact keeps_refused _ _ _
  | ok value => exact keeps_emit _

theorem keeps_discard (region : Region) : Op.Keeps I region.discard := by
  unfold Region.discard Region.free
  refine keeps_bind (keeps_attempt (inv.keeps_release _ _)) fun freed => ?_
  cases freed with
  | ok value => exact keeps_pure ()
  | error error => exact keeps_emit _

theorem keeps_write (region : Region) (offset : UInt64) (bytes : List UInt8) :
    Op.Keeps I (region.write offset bytes) := by
  rw [Region.write_eq]
  refine keeps_bind (keeps_requireWritable region) fun _ => ?_
  split
  · exact inv.keeps_storeBytes _ _
  · exact keeps_fail .invalidArgument

theorem keeps_fill (region : Region) (value : UInt8) : Op.Keeps I (region.fill value) := by
  unfold Region.fill
  exact keeps_bind (keeps_requireWritable region) fun _ => inv.keeps_store _ _ _

theorem keeps_allocate (size : UInt64) : Op.Keeps I (Region.allocate size) := by
  unfold Region.allocate
  exact keeps_bind (inv.keeps_alloc size) fun address => keeps_pure _

end HostInvariant

/-! ## Operations that make memory executable

These change access by themselves, always to `Perms.readExec`. -/

namespace HostInvariant

variable {ok : Perms → Prop} {I : Host → Prop} (inv : HostInvariant ok I) (execOk : ok .readExec)
include inv execOk

theorem keeps_mapping_makeExecutable (address size : UInt64) :
    Op.Keeps I (Mapping.makeExecutable address size) := by
  unfold Mapping.makeExecutable Mapping.flushInstructionCache
  refine keeps_bind (keeps_length size) fun length => ?_
  refine keeps_bind (keeps_pure ()) fun _ => ?_
  exact inv.keeps_protect _ _ (Flags.perms_readExec.symm ▸ execOk)

theorem keeps_makeExecutable (region : Region) : Op.Keeps I region.makeExecutable := by
  unfold Region.makeExecutable
  refine keeps_bind (keeps_requireWritable region) fun _ => ?_
  refine keeps_bind (inv.keeps_mapping_makeExecutable execOk _ _) fun _ => ?_
  exact keeps_pure _

theorem keeps_ofCode (code : List UInt8) : Op.Keeps I (Region.ofCode code) := by
  unfold Region.ofCode
  refine keeps_bind (inv.keeps_allocate _) fun region => ?_
  have finish : Op.Keeps I (do region.write 0 code; region.makeExecutable) :=
    keeps_bind (inv.keeps_write _ _ _) fun _ => inv.keeps_makeExecutable execOk region
  refine keeps_bind (keeps_attempt finish) fun finished => ?_
  cases finished with
  | ok executable => exact keeps_pure executable
  | error error => exact keeps_bind (inv.keeps_discard region) fun _ => keeps_fail error

end HostInvariant

/-! ## Steps -/

/-- A step keeps a property of the host. -/
abbrev StepM.Keeps {α : Type} (I : Host → Prop) (run : StepM α) : Prop :=
  Effect.Keeps (fun state : Context × Slots => I state.1.host) run

section Steps

variable {α : Type} {I : Host → Prop}

theorem keeps_op {op : Op α} (keeps : Op.Keeps I op) : StepM.Keeps I (StepM.op op) := by
  rintro logging ⟨context, slots⟩ holds
  have after := keeps logging context holds
  unfold StepM.op
  rw [exec_ofOp]
  revert after
  rcases op.exec logging context with ⟨stop | value, later⟩ <;> exact id

theorem keeps_slot (id : SlotId) : StepM.Keeps I (StepM.slot id) := by
  unfold StepM.slot
  refine keeps_bind keeps_get fun state => ?_
  split
  · exact keeps_pure _
  · exact keeps_throw _

theorem keeps_region (id : SlotId) : StepM.Keeps I (StepM.region id) := by
  unfold StepM.region
  refine keeps_bind (keeps_slot id) fun slot => ?_
  cases slot with
  | region region => exact keeps_pure region
  | raw address => exact keeps_throw _

theorem keeps_put (id : SlotId) (slot : Slot) : StepM.Keeps I (StepM.put id slot) :=
  keeps_modify fun _ holds => holds

theorem keeps_takeRegion (id : SlotId) : StepM.Keeps I (StepM.takeRegion id) := by
  unfold StepM.takeRegion
  refine keeps_bind (keeps_region id) fun region => ?_
  exact keeps_bind (keeps_modify fun _ holds => holds) fun _ => keeps_pure region

theorem keeps_requireEmpty (id : SlotId) : StepM.Keeps I (StepM.requireEmpty id) := by
  unfold StepM.requireEmpty
  refine keeps_bind keeps_get fun state => ?_
  split
  · exact keeps_throw _
  · exact keeps_pure _

theorem keeps_resolve (place : Place) : StepM.Keeps I place.resolve := by
  unfold Place.resolve
  cases place with
  | absolute address => exact keeps_pure address
  | slot id offset => exact keeps_bind (keeps_slot id) fun slot => keeps_pure _

end Steps

/-- The step passes no flags outside `ok`. Only an explicit change of access passes any. -/
def Step.Within (ok : Perms → Prop) : Step → Prop
  | .library (.mapping (.protect _ _ flags)) _ => ok flags.perms
  | _ => True

namespace HostInvariant

variable {ok : Perms → Prop} {I : Host → Prop} (inv : HostInvariant ok I) (execOk : ok .readExec)
include inv execOk

theorem keeps_mappingCall {call : MappingCall} {inThread : Bool}
    (within : (Step.library (.mapping call) inThread).Within ok) : StepM.Keeps I call.run := by
  unfold MappingCall.run
  cases call with
  | length size => exact keeps_bind (keeps_op (keeps_length size)) fun _ => keeps_pure _
  | alloc slot size =>
      refine keeps_bind (keeps_requireEmpty slot) fun _ => ?_
      refine keeps_bind (keeps_op (inv.keeps_alloc size)) fun address => ?_
      exact keeps_bind (keeps_put slot _) fun _ => keeps_pure _
  | protect place size flags =>
      refine keeps_bind (keeps_resolve place) fun address => ?_
      exact keeps_bind (keeps_op (inv.keeps_protect address size within)) fun _ => keeps_pure _
  | makeExecutable place size =>
      refine keeps_bind (keeps_resolve place) fun address => ?_
      exact keeps_bind (keeps_op (inv.keeps_mapping_makeExecutable execOk address size))
        fun _ => keeps_pure _
  | release place size =>
      refine keeps_bind (keeps_resolve place) fun address => ?_
      exact keeps_bind (keeps_op (inv.keeps_release address size)) fun _ => keeps_pure _
  | flushInstructionCache place size =>
      refine keeps_bind (keeps_resolve place) fun address => ?_
      exact keeps_bind (keeps_op (keeps_pure ())) fun _ => keeps_pure _

omit inv execOk in
theorem keeps_status {op : Op Unit} (keeps : Op.Keeps I op) :
    Op.Keeps I (CInterface.status op) := by
  unfold CInterface.status
  refine keeps_bind (keeps_attempt keeps) fun done => ?_
  cases done with
  | ok value => exact keeps_pure _
  | error error => exact keeps_pure _

theorem keeps_cCall (call : CCall) : StepM.Keeps I call.run := by
  unfold CCall.run
  cases call with
  | pageSize => exact keeps_bind (keeps_op keeps_pageSize) fun _ => keeps_pure _
  | errno =>
      refine keeps_bind (keeps_op ?_) fun _ => keeps_pure _
      exact keeps_bind keeps_lastError fun _ => keeps_pure _
  | alloc slot size =>
      refine keeps_bind (keeps_requireEmpty slot) fun _ => ?_
      refine keeps_bind (keeps_op ?_) fun address => ?_
      · refine keeps_bind (keeps_attempt (inv.keeps_alloc size)) fun done => ?_
        cases done with
        | ok address => exact keeps_pure address
        | error error => exact keeps_pure 0
      · by_cases null : address ≠ 0
        · simp only [if_pos null]
          exact keeps_bind (keeps_put slot _) fun _ => keeps_pure _
        · simp only [if_neg null]
          exact keeps_pure _
  | makeExecutable place size =>
      refine keeps_bind (keeps_resolve place) fun address => ?_
      refine keeps_bind (keeps_op (keeps_status ?_)) fun _ => keeps_pure _
      exact inv.keeps_mapping_makeExecutable execOk address size
  | free place size =>
      refine keeps_bind (keeps_resolve place) fun address => ?_
      exact keeps_bind (keeps_op (keeps_status (inv.keeps_release address size)))
        fun _ => keeps_pure _

theorem keeps_regionCall (id : SlotId) (call : RegionCall) : StepM.Keeps I (call.run id) := by
  unfold RegionCall.run
  cases call with
  | allocate size =>
      refine keeps_bind (keeps_requireEmpty id) fun _ => ?_
      refine keeps_bind (keeps_op (inv.keeps_allocate size)) fun region => ?_
      exact keeps_bind (keeps_put id _) fun _ => keeps_pure _
  | ofCode code =>
      refine keeps_bind (keeps_requireEmpty id) fun _ => ?_
      refine keeps_bind (keeps_op (inv.keeps_ofCode execOk code)) fun region => ?_
      exact keeps_bind (keeps_put id _) fun _ => keeps_pure _
  | info =>
      refine keeps_bind (keeps_region id) fun region => ?_
      exact keeps_bind (keeps_op (keeps_mappedLength region)) fun _ => keeps_pure _
  | makeExecutable =>
      refine keeps_bind (keeps_region id) fun region => ?_
      refine keeps_bind (keeps_op (inv.keeps_makeExecutable execOk region)) fun executable => ?_
      exact keeps_bind (keeps_put id _) fun _ => keeps_pure _
  | read start stop =>
      refine keeps_bind (keeps_region id) fun region => ?_
      exact keeps_bind (keeps_op (keeps_read region start _)) fun _ => keeps_pure _
  | write offset bytes =>
      refine keeps_bind (keeps_region id) fun region => ?_
      exact keeps_bind (keeps_op (inv.keeps_write region offset bytes)) fun _ => keeps_pure _
  | fill value =>
      refine keeps_bind (keeps_region id) fun region => ?_
      exact keeps_bind (keeps_op (inv.keeps_fill region value)) fun _ => keeps_pure _
  | free =>
      refine keeps_bind (keeps_takeRegion id) fun region => ?_
      exact keeps_bind (keeps_op (inv.keeps_release region.base region.size)) fun _ => keeps_pure _
  | discard =>
      refine keeps_bind (keeps_takeRegion id) fun region => ?_
      exact keeps_bind (keeps_op (inv.keeps_discard region)) fun _ => keeps_pure _
  | call arguments offset =>
      refine keeps_bind (keeps_region id) fun region => ?_
      cases region.entry? with
      | some entry => exact keeps_bind (keeps_op (keeps_callCode _ _ _)) fun _ => keeps_pure _
      | none => exact keeps_op (keeps_fail .invalidState)

omit execOk in
theorem keeps_hostAction (action : HostAction) : StepM.Keeps I action.run := by
  unfold HostAction.run
  cases action with
  | plan next =>
      exact keeps_bind (keeps_modify fun _ holds => inv.plan _ next holds) fun _ => keeps_pure _
  | setPageSize size =>
      exact keeps_bind (keeps_modify fun _ holds => inv.pageSize _ size holds) fun _ => keeps_pure _
  | peek place length =>
      refine keeps_bind (keeps_resolve place) fun address => ?_
      exact keeps_bind (keeps_op (keeps_load _ _)) fun _ => keeps_pure _
  | poke place bytes =>
      refine keeps_bind (keeps_resolve place) fun address => ?_
      exact keeps_bind (keeps_op (inv.keeps_storeBytes _ _)) fun _ => keeps_pure _
  | call place arguments =>
      refine keeps_bind (keeps_resolve place) fun address => ?_
      exact keeps_bind (keeps_op (keeps_callCode _ _ _)) fun _ => keeps_pure _

theorem keeps_stepRun {step : Step} (within : step.Within ok) : StepM.Keeps I step.run := by
  cases step with
  | host action => exact inv.keeps_hostAction action
  | library call inThread =>
      show StepM.Keeps I call.run
      unfold Call.run
      cases call with
      | pageSize => exact keeps_bind (keeps_op keeps_pageSize) fun _ => keeps_pure _
      | lastError => exact keeps_bind (keeps_op keeps_lastError) fun _ => keeps_pure _
      | setLastError errno =>
          exact keeps_bind (keeps_op (keeps_setLastError errno)) fun _ => keeps_pure _
      | mapping call => exact inv.keeps_mappingCall execOk within
      | c call => exact inv.keeps_cCall execOk call
      | region id call => exact inv.keeps_regionCall execOk id call

/-- **One step.** It leaves the host as it was, or as its run left it. -/
theorem step (logging : Logging) {machine : Machine} {step : Step} (within : step.Within ok)
    (holds : I machine.host) : I (machine.step logging step).2.host := by
  unfold Machine.step
  generalize (if step.inOwnThread then Errno.success else machine.lastError) = startError
  have after := inv.keeps_stepRun execOk within logging
    (.start machine.host startError, machine.slots) holds
  dsimp only
  split
  · exact holds
  · exact holds
  · exact holds
  · exact after

/-- **Every script.** A property that every host call and every write of bytes keeps is kept by a
script of any length. -/
theorem run (logging : Logging) {machine : Machine} {steps : List Step}
    (within : ∀ step ∈ steps, step.Within ok) (holds : I machine.host) :
    I (machine.run logging steps).2.host := by
  induction steps generalizing machine with
  | nil => exact holds
  | cons step later ih =>
      have now := inv.step execOk logging (within step List.mem_cons_self) holds
      exact ih (fun other member => within other (List.mem_cons_of_mem _ member)) now

end HostInvariant

end ExecMemory
