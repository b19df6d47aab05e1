import ExecMemory.Host.Request

/-!
# Planned faults

A host can be told to misbehave. A `Plan` waits for calls of one kind, lets the first `skip` of them
through, spoils the next one and is used up. When several plans wait for the same kind, only the one
planned first counts a call.
-/

namespace ExecMemory

/-- A way to spoil a call. -/
inductive Fault where
  /-- The call fails with the error number and does nothing. -/
  | refuse (kind : CallKind) (errno : Errno)
  /-- A new mapping gets this length instead of the requested one. -/
  | resize (length : UInt64)
  /-- A new mapping is answered with address zero and nothing is mapped. -/
  | null
  deriving DecidableEq

/-- The kind of call a fault can spoil. -/
def Fault.kind : Fault → CallKind
  | .refuse kind _ => kind
  | .resize _ | .null => .map

/-- A fault to come after `skip` undisturbed calls of its kind. -/
structure Plan where
  skip : Nat
  fault : Fault
  deriving DecidableEq

namespace Plan

/-- The plan that refuses the `n`-th call of a kind. Calls are counted from one, so there is no plan
for the zeroth. -/
def refuseNth? (kind : CallKind) (n : Nat) (errno : Errno) : Option Plan :=
  match n with
  | 0 => none
  | skip + 1 => some ⟨skip, .refuse kind errno⟩

/-- What the plans hold for a call of a kind, and the plans that remain after it. -/
def take (kind : CallKind) : List Plan → Option Fault × List Plan
  | [] => (none, [])
  | plan :: later =>
    if plan.fault.kind = kind then
      match plan.skip with
      | 0 => (some plan.fault, later)
      | skip + 1 => (none, { plan with skip } :: later)
    else
      let (fault, rest) := take kind later
      (fault, plan :: rest)

@[simp]
theorem take_nil (kind : CallKind) : take kind [] = (none, []) := rfl

/-- A fault taken for a kind can spoil that kind. -/
theorem kind_of_take {kind : CallKind} {plans : List Plan} {fault : Fault}
    (taken : (take kind plans).1 = some fault) : fault.kind = kind := by
  induction plans with
  | nil => simp at taken
  | cons plan later ih =>
    rw [take] at taken
    split at taken
    · rename_i same
      split at taken
      · cases taken
        exact same
      · cases taken
    · exact ih taken

end Plan

end ExecMemory
