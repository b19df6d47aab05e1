import ExecMemory.Log

/-!
# Computations with a log

An `Effect` is a computation under a `Logging` setting, with state `S` and reasons `ε` to stop
early. What it did to the state before it stopped stays done. `Effect.exec` runs it, and the
`exec_*` lemmas say how `exec` acts on each building block.
-/

namespace ExecMemory

/-- A computation under a logging setting, with state `S` and reasons `ε` to stop. -/
abbrev Effect (S ε : Type) := ReaderT Logging (ExceptT ε (StateM S))

/-- Runs a computation: its value or the reason it stopped, and the state it leaves. -/
def Effect.exec {S ε α : Type} (effect : Effect S ε α) (logging : Logging) (state : S) :
    Except ε α × S :=
  effect logging state

namespace Effect

variable {S ε α β : Type}

@[simp]
theorem exec_pure (value : α) (logging : Logging) (state : S) :
    exec (pure value : Effect S ε α) logging state = (.ok value, state) := rfl

@[simp]
theorem exec_throw (reason : ε) (logging : Logging) (state : S) :
    exec (throw reason : Effect S ε α) logging state = (.error reason, state) := rfl

/-- The second part runs in the state the first one leaves, unless the first one stops. -/
@[simp]
theorem exec_bind (effect : Effect S ε α) (next : α → Effect S ε β) (logging : Logging)
    (state : S) :
    exec (effect >>= next) logging state =
      match exec effect logging state with
      | (.ok value, later) => exec (next value) logging later
      | (.error reason, later) => (.error reason, later) := by
  simp only [exec, bind, ReaderT.bind, ExceptT.bind, ExceptT.mk, StateT.bind]
  rcases effect logging state with ⟨_ | _, _⟩ <;> rfl

@[simp]
theorem exec_map (f : α → β) (effect : Effect S ε α) (logging : Logging) (state : S) :
    exec (f <$> effect) logging state =
      match exec effect logging state with
      | (.ok value, later) => (.ok (f value), later)
      | (.error reason, later) => (.error reason, later) := by
  simp only [exec, Functor.map, ExceptT.map, ExceptT.mk, StateT.bind, bind]
  rcases effect logging state with ⟨_ | _, _⟩ <;> rfl

@[simp]
theorem exec_get (logging : Logging) (state : S) :
    exec (get : Effect S ε S) logging state = (.ok state, state) := rfl

@[simp]
theorem exec_set (later : S) (logging : Logging) (state : S) :
    exec (set later : Effect S ε PUnit) logging state = (.ok (), later) := rfl

@[simp]
theorem exec_modify (f : S → S) (logging : Logging) (state : S) :
    exec (modify f : Effect S ε PUnit) logging state = (.ok (), f state) := rfl

@[simp]
theorem exec_read (logging : Logging) (state : S) :
    exec (read : Effect S ε Logging) logging state = (.ok logging, state) := rfl

/-- The handler runs in the state the stopped computation leaves. -/
@[simp]
theorem exec_tryCatch (effect : Effect S ε α) (handler : ε → Effect S ε α) (logging : Logging)
    (state : S) :
    exec (tryCatch effect handler) logging state =
      match exec effect logging state with
      | (.ok value, later) => (.ok value, later)
      | (.error reason, later) => exec (handler reason) logging later := by
  simp only [exec, tryCatch, tryCatchThe, MonadExceptOf.tryCatch, ExceptT.tryCatch, ExceptT.mk,
    StateT.bind, bind]
  rcases effect logging state with ⟨_ | _, _⟩ <;> rfl

end Effect

end ExecMemory
