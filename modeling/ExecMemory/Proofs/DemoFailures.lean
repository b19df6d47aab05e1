import ExecMemory.Proofs.DemoStages

/-!
# The demonstration under failures

The first host call that fails ends the program.

* `Demo.Stops` says how far a run through stages comes, what it prints and what it answers, for any
  plan of failures.
* `Demo.Stage.Ends.runs` and `Demo.Stage.Ends.runs_cons` put stages together.
* `demo_stops_at_first_failure` is the result for the program.
-/

namespace ExecMemory

namespace Demo

/-! ## Stages in a row -/

/-- What is still asked of the host after a call has failed: memory whose access could not be
changed is given back. -/
def cleanupAfter : Option SysCall → List Request
  | some ⟨.protect base length _, _⟩ => [.unmap base length]
  | _ => []

/-- The answer of the program: the error of the call that failed, if one did. -/
def verdict (logging : Logging) (lastError : Errno) (granted : List SysCall) :
    Option SysCall → Except Stop Unit
  | none => .ok ()
  | some call =>
    -- the calls before it were traced, and that may have changed the last error
    let before := if granted.isEmpty then lastError else logging.traced lastError
    .error (.error (Mapping.classify call.request.kind (reportedErrno before call.reply)))

/-- A run through stages that stops at the first failing call. -/
structure Stops (logging : Logging) (lastError : Errno) (plans : List Plan) (stages : List Stage)
    (granted : List SysCall) (failed : Option SysCall) (cleanup : List SysCall)
    (lines : List String)
    (result : Except Stop Unit) : Prop where
  /-- The calls are those that the stages need, in order, up to the first that fails. -/
  asked : (granted ++ failed.toList).map SysCall.request <+: stages.flatMap Stage.requests
  complete : failed = none → granted.map SysCall.request = stages.flatMap Stage.requests
  succeeded : ∀ call ∈ granted, call.succeeded = true
  fails : ∀ call ∈ failed, call.succeeded = false
  cleans : cleanup.map SysCall.request = cleanupAfter failed
  /-- A call fails if and only if a fault is planned for it, and then it fails that way. -/
  planned : (granted ++ failed.toList ++ cleanup).map SysCall.fault? =
    Plan.faultsFor plans ((granted ++ failed.toList ++ cleanup).map fun call => call.request.kind)
  /-- A stage has printed its lines if and only if its memory became executable. -/
  printed : lines =
    ((stages.map Stage.lines).take
      (granted.countP fun call => call.request.kind = .protect)).flatten
  answered : result = verdict logging lastError granted failed

/-- The same for the calls that were added between two moments. Where every release was granted,
nothing is mapped in the end. -/
def Runs (logging : Logging) (stages : List Stage) (before : Context) (result : Except Stop Unit)
    (later : Context) (lines : List String) : Prop :=
  ∃ granted failed cleanup,
    later.calls = before.calls ++ (granted ++ failed.toList ++ cleanup) ∧
    Stops logging before.lastError before.host.plans stages granted failed cleanup lines result ∧
    ((∀ call ∈ granted ++ failed.toList ++ cleanup, call.request.kind = .unmap →
      call.succeeded = true) →
      later.host.memory = .empty)

section Stages

variable {logging : Logging} {stage : Stage} {stages : List Stage} {before later : Context}
  {result : Except Stop Unit} {lines : List String}

theorem faultsFor_meets {call : SysCall} {plans rest : List Plan} (meets : call.Meets plans rest)
    (kinds : List CallKind) :
    Plan.faultsFor plans (call.request.kind :: kinds) =
      call.fault? :: Plan.faultsFor rest kinds := by
  show (Plan.take _ plans).1 :: Plan.faultsFor (Plan.take _ plans).2 kinds = _
  rw [meets]

/-- The three calls of a stage and what comes after them. -/
theorem faultsFor_stage {mapping change release : SysCall} {plans first second rest : List Plan}
    (mapped : mapping.Meets plans first) (changed : change.Meets first second)
    (released : release.Meets second rest) (kinds : List CallKind) :
    Plan.faultsFor plans (mapping.request.kind :: change.request.kind :: release.request.kind ::
      kinds) =
      mapping.fault? :: change.fault? :: release.fault? :: Plan.faultsFor rest kinds := by
  rw [faultsFor_meets mapped, faultsFor_meets changed, faultsFor_meets released]

theorem Stage.succeeded_maps (notNull : stage.base ≠ 0) :
    (stage.maps (.ok stage.base)).succeeded = true :=
  bne_iff_ne.mpr notNull

theorem Stage.Ends.empty (ends : stage.Ends logging before (.ok ()) later lines) :
    later.host.memory = .empty := by
  cases ends
  assumption

/-- A first stage that is done leaves room for another. -/
theorem Stage.Ends.vacant (ends : stage.Ends logging before (.ok ()) later lines)
    (first : before.host.cursor = 0) (small : stage.length.toNat ≤ 0x200000) :
    Vacant later.host ∧ later.host.cursor = Host.stride stage.length ∧
      later.host.pageSize = before.host.pageSize := by
  cases ends with
  | released _ _ _ _ _ empty plain cursor pageSize _ =>
      rw [first, Nat.zero_add] at cursor
      refine ⟨⟨empty, plain, ?_, ?_⟩, cursor, pageSize⟩
      · rw [cursor]
        unfold Host.stride placement
        omega
      · rw [cursor]
        unfold Host.stride placement
        omega

/-- A stage that ends with an error ends the run. -/
theorem Stage.Ends.runs {stop : Stop} (ends : stage.Ends logging before (.error stop) later lines)
    (stages : List Stage) : Runs logging (stage :: stages) before (.error stop) later lines := by
  cases ends with
  | @unmapped reply _ failed meets calls empty =>
      refine ⟨[], some (stage.maps reply), [], calls,
        ⟨⟨_, rfl⟩, nofun, nofun, ?_, rfl, ?_, rfl, rfl⟩,
        fun _ => empty⟩
      · rintro call ⟨⟩
        exact failed
      · exact (faultsFor_meets meets []).symm
  | @unprotected errno reply first second _ notNull mapped refused cleaned calls empty =>
      refine ⟨[stage.maps (.ok stage.base)], some (stage.protects (.error errno)),
        [stage.unmaps reply], calls, ⟨⟨_, rfl⟩, nofun, ?_, ?_, rfl, ?_, rfl, rfl⟩,
        fun released => ?_⟩
      · exact List.forall_mem_singleton.mpr (succeeded_maps notNull)
      · rintro call ⟨⟩
        rfl
      · exact (faultsFor_stage mapped refused cleaned []).symm
      · exact empty (released (stage.unmaps reply) (by simp) rfl)
  | @unreleased value errno first second _ notNull mapped changed refused calls =>
      refine ⟨[stage.maps (.ok stage.base), stage.protects (.ok value)],
        some (stage.unmaps (.error errno)), [], calls, ⟨⟨_, rfl⟩, nofun, ?_, ?_, rfl, ?_, ?_, rfl⟩,
        fun released => ?_⟩
      · exact List.forall_mem_cons.mpr ⟨succeeded_maps notNull, List.forall_mem_singleton.mpr rfl⟩
      · rintro call ⟨⟩
        rfl
      · exact (faultsFor_stage mapped changed refused []).symm
      · exact (List.append_nil stage.lines).symm
      · -- a release was refused
        cases released (stage.unmaps (.error errno)) (by simp) rfl

/-- What was traced once is not changed by what is traced later. -/
theorem verdict_traced (logging : Logging) (lastError : Errno) (first : SysCall)
    (others granted : List SysCall) (failed : Option SysCall) :
    verdict logging (logging.traced lastError) granted failed =
      verdict logging lastError (first :: others) failed := by
  cases failed with
  | none => rfl
  | some call =>
      unfold verdict
      rw [Logging.traced_traced, ite_self]
      rfl

/-- A stage that is done is followed by the others. -/
theorem Stage.Ends.runs_cons {between : Context} {more : List String}
    (ends : stage.Ends logging before (.ok ()) between lines)
    (rest : Runs logging stages between result later more) :
    Runs logging (stage :: stages) before result later (lines ++ more) := by
  cases ends with
  | @released value answer first second _ notNull mapped changed taken calls _ _ _ _ number =>
      obtain ⟨granted, failed, cleanup, moreCalls, stops, empty⟩ := rest
      refine ⟨stage.maps (.ok stage.base) :: stage.protects (.ok value) :: stage.unmaps
        (.ok answer) :: granted, failed, cleanup, ?_,
        ⟨?_, ?_, ?_, stops.fails, stops.cleans, ?_, ?_, ?_⟩, ?_⟩
      · rw [moreCalls, calls, List.append_assoc]
        rfl
      · exact (List.prefix_append_right_inj stage.requests).mpr stops.asked
      · intro done
        exact congrArg (stage.requests ++ ·) (stops.complete done)
      · refine List.forall_mem_cons.mpr ⟨succeeded_maps notNull, ?_⟩
        exact List.forall_mem_cons.mpr ⟨rfl, List.forall_mem_cons.mpr ⟨rfl, stops.succeeded⟩⟩
      · show _ :: _ :: _ :: (granted ++ failed.toList ++ cleanup).map SysCall.fault? =
          Plan.faultsFor _ ((stage.maps _).request.kind :: (stage.protects _).request.kind ::
            (stage.unmaps _).request.kind ::
              (granted ++ failed.toList ++ cleanup).map fun call => call.request.kind)
        rw [faultsFor_stage mapped changed taken, stops.planned]
      · rw [stops.printed, List.countP_cons_of_neg (by nofun), List.countP_cons_of_pos rfl,
          List.countP_cons_of_neg (by nofun)]
        rfl
      · rw [stops.answered, number]
        exact verdict_traced logging before.lastError _ _ granted failed
      · intro released
        refine empty fun call member => released call ?_
        exact List.mem_cons_of_mem _ (List.mem_cons_of_mem _ (List.mem_cons_of_mem _ member))

theorem runs_nil {context : Context} (empty : context.host.memory = .empty) :
    Runs logging [] context (.ok ()) context [] :=
  ⟨[], none, [], (List.append_nil _).symm,
    ⟨⟨[], rfl⟩, fun _ => rfl, nofun, nofun, rfl, rfl, rfl, rfl⟩,
    fun _ => empty⟩

end Stages

/-! ## The two stages of the program -/

section Program

variable {logging : Logging} {now : Context} {lines : List String} {base : UInt64}

theorem exec_callCode_encoded {back : List Instr} {x y value : Int32}
    (executable : Executable now.host.memory base (encodeAll (back ++ [.ret])))
    (straight : .ret ∉ back)
    (sets : lastSet? x y back = some value) :
    (callCode base x y).exec logging now = (.ok value, now) := by
  have runs := @Executable.runs now.host.memory base [] back x y value executable straight sets
  rw [show base + .ofInt (encodeAll []).length = base from UInt64.add_zero base] at runs
  rw [exec_callCode, runs]

theorem exec_print (line : String) :
    (DemoM.print line).exec logging (now, lines) = (.ok (), now, lines ++ [line]) := rfl

theorem exec_useNumber (executable : Executable now.host.memory base (encodeAll retNumber)) :
    (useNumber base).exec logging (now, lines) =
      (.ok (), now, lines ++ ["ret_number() = 20040128"]) := by
  have called : (callCode base 0 0).exec logging now = (.ok 20040128, now) :=
    @exec_callCode_encoded logging now base [.load 0x0131c9c0] 0 0 20040128 executable
      (by decide) rfl
  unfold useNumber
  rw [Effect.exec_bind, exec_op called]
  rfl

theorem exec_useAdd (executable : Executable now.host.memory base (encodeAll add)) :
    (useAdd base).exec logging (now, lines) =
      (.ok (), now, lines ++ ["add(1, 2) = 3", "add(314159265, -256) = 314159009"]) := by
  have first : (callCode base 1 2).exec logging now = (.ok 3, now) :=
    @exec_callCode_encoded logging now base [.add] 1 2 3 executable (by decide) rfl
  have second : (callCode base 314159265 (-256)).exec logging now = (.ok 314159009, now) :=
    @exec_callCode_encoded logging now base [.add] 314159265 (-256) 314159009 executable
      (by decide) rfl
  unfold useAdd
  rw [Effect.exec_bind, exec_op first]
  dsimp only
  rw [Effect.exec_bind, exec_print]
  dsimp only
  rw [Effect.exec_bind, exec_op second]
  dsimp only
  rw [exec_print, List.append_assoc]
  rfl

/-- The stages of the program at a page size. The memory of the second is placed behind that of the
first. -/
def stages (page : UInt64) : List Stage :=
  let first := mappedBytes (.ofNat (encodeAll retNumber).length) page
  let second := mappedBytes (.ofNat (encodeAll add).length) page
  [⟨.ofNat mapBase, first, ["ret_number() = 20040128"]⟩,
    ⟨.ofNat (mapBase + Host.stride first), second,
      ["add(1, 2) = 3", "add(314159265, -256) = 314159009"]⟩]

/-- The program runs through its stages. -/
theorem program_runs (logging : Logging) (lastError : Errno) {page : UInt64}
    (power : page.toNat.isPowerOfTwo) (small : page.toNat ≤ 2 ^ 20) {plans : List Plan}
    (plain : ∀ plan ∈ plans, plan.fault.keepsLength = true) :
    ∃ result later lines,
      program.exec logging (.start { Host.initial with pageSize := page, plans } lastError, []) =
        (result, later, lines) ∧
      Runs logging (stages page) (.start { Host.initial with pageSize := page, plans } lastError)
        result later lines := by
  have vacant : Vacant { Host.initial with pageSize := page, plans } :=
    ⟨rfl, plain, rfl, Nat.zero_le _⟩
  obtain ⟨result, later, lines, ran, ends⟩ :=
    @stage_ends logging (.start { Host.initial with pageSize := page, plans } lastError) []
      "ret_number" retNumber useNumber
      ⟨.ofNat mapBase, mappedBytes (.ofNat (encodeAll retNumber).length) page,
        ["ret_number() = 20040128"]⟩
      vacant power small (by decide) rfl rfl fun now => exec_useNumber
  rw [program_eq, Effect.exec_bind, ran]
  cases result with
  | error stop => exact ⟨_, _, _, rfl, ends.runs _⟩
  | ok _ =>
      obtain ⟨vacant, cursor, pageSize⟩ :=
        ends.vacant rfl (length_of_short power small (by decide)).2.2.2
      change later.host.pageSize = page at pageSize
      obtain ⟨result, last, more, ran, ends'⟩ :=
        @stage_ends logging later lines "add" add useAdd
          ⟨.ofNat (mapBase + Host.stride (mappedBytes (.ofNat (encodeAll retNumber).length) page)),
            mappedBytes (.ofNat (encodeAll add).length) page,
            ["add(1, 2) = 3", "add(314159265, -256) = 314159009"]⟩
          vacant (pageSize ▸ power) (pageSize ▸ small) (by decide) (by rw [cursor])
          (by rw [pageSize]) fun now => exec_useAdd
      refine ⟨result, last, lines ++ more, ran, ends.runs_cons ?_⟩
      cases result with
      | error stop => exact ends'.runs []
      | ok _ =>
          rw [← List.append_nil more]
          exact ends'.runs_cons (runs_nil ends'.empty)

end Program

end Demo

/-- **The demonstration stops at the first failure.** Take a fresh host that reports any power of
two up to 2^20 as its page size, with any plans to refuse calls or to answer a request for memory
with null, and any logging. Then the program asks the host for what its two stages need, in order,
up to the first call that fails. Calls fail as they were planned to. If the failed call was a change
of access, it is followed by one more call, which gives the memory back. A stage prints its lines if
and only if its change of access succeeded. The answer is the error of the failed call, if there is
one. Nothing is mapped in the end unless a release was refused. -/
theorem demo_stops_at_first_failure (logging : Logging) (lastError : Errno) {page : UInt64}
    (power : page.toNat.isPowerOfTwo) (small : page.toNat ≤ 2 ^ 20) {plans : List Plan}
    (plain : ∀ plan ∈ plans, plan.fault.keepsLength = true) :
    let ran :=
      Demo.program.exec logging (.start { Host.initial with pageSize := page, plans } lastError, [])
    ∃ granted failed cleanup,
      ran.2.1.calls = granted ++ failed.toList ++ cleanup ∧
      Demo.Stops logging lastError plans (Demo.stages page) granted failed cleanup ran.2.2 ran.1 ∧
      ((∀ call ∈ ran.2.1.calls, call.request.kind = .unmap → call.succeeded = true) →
        ran.2.1.host.memory = .empty) := by
  intro ran
  obtain ⟨result, later, lines, executed, granted, failed, cleanup, calls, stops, empty⟩ :=
    Demo.program_runs logging lastError power small plain
  rw [show ran = (result, later, lines) from executed]
  refine ⟨granted, failed, cleanup, calls, stops, fun released => empty fun call member => ?_⟩
  exact released call (calls ▸ member)

/-- The second change of access is refused, and so is the release that follows it. -/
def secondRefused : List Plan :=
  [⟨1, .refuse .protect .notPermitted⟩, ⟨1, .refuse .unmap .invalidArgument⟩, ⟨2, .null⟩]

theorem demo_stops_at_first_failure_secondRefused :
    let ran := Demo.program.exec ⟨some .trace, some ⟨7⟩⟩
      (.start { Host.initial with pageSize := 16384, plans := secondRefused } .success, [])
    ran.1 = .error (.error (.unsupportedTransition .notPermitted)) ∧
    ran.2.2 = ["ret_number() = 20040128"] ∧
    ran.2.1.calls.map SysCall.request = (Demo.stages 16384).flatMap Demo.Stage.requests ∧
    ∃ granted failed cleanup, ran.2.1.calls = granted ++ failed.toList ++ cleanup ∧
      Demo.Stops ⟨some .trace, some ⟨7⟩⟩ .success secondRefused (Demo.stages 16384) granted failed
        cleanup ran.2.2 ran.1 := by
  intro ran
  have plain : ∀ plan ∈ secondRefused, plan.fault.keepsLength = true := by decide
  obtain ⟨granted, failed, cleanup, calls, stops, _⟩ := @demo_stops_at_first_failure
    ⟨some .trace, some ⟨7⟩⟩ .success 16384 (by decide) (by decide) secondRefused plain
  exact ⟨by decide +kernel, by decide +kernel, by decide +kernel, granted, failed, cleanup, calls,
    stops⟩

end ExecMemory
