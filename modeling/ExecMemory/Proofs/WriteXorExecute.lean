import ExecMemory.Proofs.HostInvariant

/-!
# Write xor execute

No page is ever both writable and executable, unless a script asks for exactly that in an explicit
change of access. This does not depend on proper use: it holds for overlapping and misaligned
ranges, for ranges that are not mapped or released already, for calls that the host refuses or
spoils, for calls that fail part-way, and whatever page size the host reports from one call to the
next.

The invariant is about single pages, so it does not matter which pages a host call reaches, nor how
far it comes: every page it touches gets permissions that are fine by themselves.
-/

namespace ExecMemory

/-- Not writable and executable at once. -/
def Perms.Exclusive (perms : Perms) : Prop := ¬ (perms.write = true ∧ perms.exec = true)

theorem Perms.readWrite_exclusive : readWrite.Exclusive := by
  unfold Exclusive
  decide

theorem Perms.readExec_exclusive : readExec.Exclusive := by
  unfold Exclusive
  decide

/-- Every mapped page is exclusive. -/
def Memory.Exclusive (memory : Memory) : Prop :=
  ∀ n page, memory.page? n = some page → page.perms.Exclusive

namespace Memory

variable {memory : Memory}

theorem exclusive_empty : empty.Exclusive := by
  intro n page mapped
  cases mapped

theorem Exclusive.mapPages (exclusive : memory.Exclusive) (span : Span) {perms : Perms}
    (separate : perms.Exclusive) : (memory.mapPages span perms).Exclusive := by
  intro n page mapped
  rw [page?_mapPages] at mapped
  split at mapped
  · cases mapped
    exact separate
  · exact exclusive n page mapped

theorem Exclusive.protectPages (exclusive : memory.Exclusive) (span : Span) {perms : Perms}
    (separate : perms.Exclusive) : (memory.protectPages span perms).Exclusive := by
  intro n page mapped
  rw [page?_protectPages] at mapped
  split at mapped
  · obtain ⟨old, _, rfl⟩ := Option.map_eq_some_iff.mp mapped
    exact separate
  · exact exclusive n page mapped

theorem Exclusive.unmapPages (exclusive : memory.Exclusive) (span : Span) :
    (memory.unmapPages span).Exclusive := by
  intro n page mapped
  rw [page?_unmapPages] at mapped
  split at mapped
  · cases mapped
  · exact exclusive n page mapped

/-- Writing bytes keeps the permissions of all pages. -/
theorem Exclusive.write? (exclusive : memory.Exclusive) {start length : Nat} {content : Nat → UInt8}
    {written : Memory} (stored : memory.write? start length content = some written) :
    written.Exclusive := by
  intro n page mapped
  unfold Memory.write? at stored
  split at stored
  · cases stored
    have same := map_perms_page?_overwrite memory start length content n
    rw [mapped] at same
    obtain ⟨old, oldMapped, separate⟩ := Option.map_eq_some_iff.mp same.symm
    rw [← separate]
    exact exclusive n old oldMapped
  · cases stored

end Memory

/-! ## Host calls -/

theorem Request.within_withLength {ok : Perms → Prop} {request : Request}
    (within : request.Within ok) (length : UInt64) : (request.withLength length).Within ok := by
  cases request with
  | map => exact within
  | protect => exact within
  | unmap => exact within

theorem Host.serve_exclusive (host : Host) {request : Request}
    (within : request.Within Perms.Exclusive) (exclusive : host.memory.Exclusive) :
    (host.serve request).2.memory.Exclusive := by
  cases request with
  | map length perms =>
      have fresh : perms.Exclusive := by
        rw [show perms = .readWrite from within]
        exact Perms.readWrite_exclusive
      show (host.map length perms).2.memory.Exclusive
      unfold Host.map
      split
      · exact exclusive
      · exact exclusive.mapPages _ fresh
  | protect address length perms =>
      show (host.protect address length perms).2.memory.Exclusive
      unfold Host.protect
      split
      · split
        · -- also when the call stops at an unmapped page: the pages before it have changed
          exact exclusive.protectPages _ within
        · exact exclusive
      · exact exclusive
  | unmap address length =>
      show (host.unmap address length).2.memory.Exclusive
      unfold Host.unmap
      split
      · exact exclusive.unmapPages _
      · exact exclusive

theorem Host.call_exclusive {host : Host} {request : Request}
    (within : request.Within Perms.Exclusive) (exclusive : host.memory.Exclusive) :
    (host.call request).2.memory.Exclusive := by
  unfold Host.call
  rcases Plan.take request.kind host.plans with ⟨fault, plans⟩
  rcases fault with _ | (_ | length | _)
  · exact Host.serve_exclusive { host with plans } within exclusive
  · exact exclusive
  · exact Host.serve_exclusive { host with plans }
      (Request.within_withLength within length) exclusive
  · exact exclusive

theorem exclusive_invariant :
    HostInvariant Perms.Exclusive (fun host => host.memory.Exclusive) where
  call _ _ within exclusive := Host.call_exclusive within exclusive
  write _ _ _ _ _ stored exclusive := exclusive.write? stored
  plan _ _ exclusive := exclusive
  pageSize _ _ exclusive := exclusive

/-! ## Runs -/

/-- **Write xor execute.** After any script on a fresh machine, if no explicit change of access asks
for writing and executing together, no mapped page allows both. -/
theorem write_xor_execute (logging : Logging) (steps : List Step)
    (separate : ∀ place size flags inThread,
      Step.library (.mapping (.protect place size flags)) inThread ∈ steps →
        ¬ (flags.contains .write = true ∧ flags.contains .exec = true))
    (n : Nat) (page : Page)
    (mapped : (Machine.initial.run logging steps).2.host.memory.page? n = some page) :
    ¬ (page.perms.write = true ∧ page.perms.exec = true) := by
  have within : ∀ step ∈ steps, step.Within Perms.Exclusive := by
    intro step member
    unfold Step.Within
    split
    · exact separate _ _ _ _ member
    · trivial
  have final : (Machine.initial.run logging steps).2.host.memory.Exclusive :=
    exclusive_invariant.run Perms.readExec_exclusive logging within Memory.exclusive_empty
  exact final n page mapped

/-- A script whose change of access fails part-way: of two pages the second one is gone. -/
def partialProtect : List Step := [
  .library (.mapping (.alloc 0 8192)) false,
  .library (.mapping (.release (.slot 0 4096) 1)) false,
  .library (.mapping (.protect (.slot 0 0) 8192 .readExec)) false]

theorem write_xor_execute_partialProtect :
    ∃ page, (Machine.initial.run .silent partialProtect).2.host.memory.page? 0x10000000 =
        some page ∧ page.perms = .readExec ∧
      ¬ (page.perms.write = true ∧ page.perms.exec = true) := by
  have perms : ((Machine.initial.run .silent partialProtect).2.host.memory.page? 0x10000000).map
      Page.perms = some .readExec := by decide +kernel
  obtain ⟨page, mapped, separate⟩ := Option.map_eq_some_iff.mp perms
  refine ⟨page, mapped, separate, write_xor_execute .silent partialProtect ?_ _ page mapped⟩
  intro place size flags inThread member
  simp only [partialProtect, List.mem_cons, Step.library.injEq, Call.mapping.injEq, reduceCtorEq,
    MappingCall.protect.injEq, List.not_mem_nil, false_and, or_false, false_or] at member
  obtain ⟨⟨_, _, rfl⟩, _⟩ := member
  decide

end ExecMemory
