import ExecMemory.Proofs.PageFrames

/-!
# Writing to a region

A write to a region checks the state, then the range, and only then touches memory. If it does, it
changes the bytes of its range and no others; it never asks the host for anything and leaves no
trace in the log or the last error.

* `Memory.overwrite_comm` and `Memory.load_overwrite` are about memory alone: changes to ranges
  without a common byte commute, and what was written is read back.
* `Region.Accessible` says that all bytes of a region lie on pages that can be written, which no
  write changes (`Region.Accessible.overwrite`).
* `Region.write_cases` lists the three ways in which a write ends.
-/

namespace ExecMemory

/-! ## Overwriting memory -/

namespace Memory

variable {memory : Memory} {start length other count : Nat}

/-- Two ranges without a common byte can be overwritten in either order. -/
theorem overwrite_comm (memory : Memory) (content more : Nat → UInt8)
    (apart : ∀ address, start ≤ address → address < start + length →
      ¬ (other ≤ address ∧ address < other + count)) :
    (memory.overwrite start length content).overwrite other count more =
      (memory.overwrite other count more).overwrite start length content := by
  apply Memory.ext
  funext n
  simp only [overwrite, Option.map_map]
  congr 1
  funext page
  simp only [Function.comp_def]
  congr 1
  funext i
  by_cases first : start ≤ n * pageBytes + i ∧ n * pageBytes + i < start + length
  · rw [if_pos first, if_neg (apart _ first.1 first.2), if_pos first]
  · rw [if_neg first, if_neg first]

/-- Mapped bytes that were overwritten are read back. -/
theorem load_overwrite {bytes : List UInt8}
    (mapped : ∀ i < bytes.length, (memory.byte? (start + i)).isSome) :
    (memory.overwrite start bytes.length (byteAt bytes)).load start bytes.length = bytes := by
  apply List.ext_getElem
  · rw [length_load]
  · intro i short inside
    obtain ⟨byte, found⟩ := Option.isSome_iff_exists.mp (mapped i inside)
    simp [load, byte?_overwrite, found, byteAt, inside]

end Memory

/-! ## One write -/

namespace Region

/-- Every byte of the region lies on a page that can be written, and so it can be read too. -/
def Accessible (region : Region) (memory : Memory) : Prop :=
  ∀ address, region.base.toNat ≤ address → address < region.base.toNat + region.size.toNat →
    ∃ perms, memory.perms? (address / pageBytes) = some perms ∧ perms.write = true

namespace Accessible

variable {region : Region} {memory : Memory} (accessible : region.Accessible memory)
include accessible

/-- Writing changes no permissions. -/
theorem overwrite (start length : Nat) (content : Nat → UInt8) :
    region.Accessible (memory.overwrite start length content) := by
  intro address low high
  rw [Memory.perms?, Memory.map_perms_page?_overwrite]
  exact accessible address low high

theorem permits {ok : Perms → Bool}
    (allowed : ∀ perms : Perms, perms.write = true → ok perms = true) {offset length : Nat}
    (inside : offset + length ≤ region.size.toNat) :
    memory.permits ok (region.base.toNat + offset) length = true := by
  rw [Memory.permits_eq_true_iff]
  intro address low high
  obtain ⟨perms, found, writable⟩ := accessible address (by omega) (by omega)
  obtain ⟨page, mapped, rfl⟩ := Option.map_eq_some_iff.mp found
  exact ⟨page, mapped, allowed _ writable⟩

theorem isSome_byte? {address : Nat} (low : region.base.toNat ≤ address)
    (high : address < region.base.toNat + region.size.toNat) : (memory.byte? address).isSome := by
  obtain ⟨perms, found, _⟩ := accessible address low high
  obtain ⟨page, mapped, _⟩ := Option.map_eq_some_iff.mp found
  rw [Memory.byte?, mapped]
  rfl

end Accessible

variable {region : Region} {logging : Logging} {context : Context} {offset : UInt64}
  {bytes : List UInt8}

/-- The memory after a write of `bytes` at `offset`. -/
def written (region : Region) (offset : UInt64) (bytes : List UInt8) (memory : Memory) : Memory :=
  memory.overwrite (region.base.toNat + offset.toNat) bytes.length (byteAt bytes)

theorem exec_write (logging : Logging) (accessible : region.Accessible context.host.memory)
    (writable : region.state = .writable)
    (inside : offset.toNat + bytes.length ≤ region.size.toNat) :
    (region.write offset bytes).exec logging context =
      (.ok (), { context with host :=
        { context.host with memory := region.written offset bytes context.host.memory } }) := by
  have wrote : context.host.memory.write? (region.base.toNat + offset.toNat) bytes.length
      (byteAt bytes) =
      some (region.written offset bytes context.host.memory) :=
    Memory.write?_eq_some_iff.mpr ⟨accessible.permits (fun _ allowed => allowed) inside, rfl⟩
  have stored : (storeBytes (region.base.toNat + offset.toNat) bytes).exec logging context =
      (.ok (), { context with host :=
        { context.host with memory := region.written offset bytes context.host.memory } }) := by
    show (store _ _ (byteAt bytes)).exec logging context = _
    rw [exec_store, wrote]
  simp [write_eq, requireWritable, writable, inside, stored]

theorem exec_write_executable (logging : Logging) (executable : region.state = .executable) :
    (region.write offset bytes).exec logging context =
      (.error (.error .invalidState), context) := by
  simp [write_eq, requireWritable, executable]

theorem exec_write_outside (logging : Logging) (writable : region.state = .writable)
    (outside : ¬ offset.toNat + bytes.length ≤ region.size.toNat) :
    (region.write offset bytes).exec logging context =
      (.error (.error .invalidArgument), context) := by
  simp [write_eq, requireWritable, writable, outside]

/-- How a write ends. The state is checked first and the range second. -/
theorem write_cases (logging : Logging) (offset : UInt64) (bytes : List UInt8)
    (accessible : region.state = .writable → region.Accessible context.host.memory) :
    let ran := (region.write offset bytes).exec logging context
    (region.state = .writable ∧ offset.toNat + bytes.length ≤ region.size.toNat ∧
      ran = (.ok (), { context with host :=
        { context.host with memory := region.written offset bytes context.host.memory } })) ∨
    ∃ error, ran = (.error (.error error), context) ∧
      (region.state = .executable ∧ error = .invalidState ∨
        region.state = .writable ∧ ¬ offset.toNat + bytes.length ≤ region.size.toNat ∧
          error = .invalidArgument) := by
  intro ran
  cases state : region.state with
  | executable => exact .inr ⟨.invalidState, exec_write_executable logging state, .inl ⟨rfl, rfl⟩⟩
  | writable =>
      by_cases inside : offset.toNat + bytes.length ≤ region.size.toNat
      · exact .inl ⟨rfl, inside, exec_write logging (accessible state) state inside⟩
      · exact .inr ⟨.invalidArgument, exec_write_outside logging state inside,
          .inr ⟨rfl, inside, rfl⟩⟩

/-- What a write reports. -/
theorem write_outcome (logging : Logging) (offset : UInt64) (bytes : List UInt8)
    (accessible : region.state = .writable → region.Accessible context.host.memory) :
    let ran := (region.write offset bytes).exec logging context
    (ran.1 = .ok () ↔ region.state = .writable ∧ offset.toNat + bytes.length ≤ region.size.toNat) ∧
    (region.state = .executable → ran.1 = .error (.error .invalidState)) ∧
    (region.state = .writable → ¬ offset.toNat + bytes.length ≤ region.size.toNat →
      ran.1 = .error (.error .invalidArgument)) := by
  intro ran
  rcases write_cases logging offset bytes accessible with
    ⟨writable, inside, ended⟩ | ⟨_, ended, ⟨executable, rfl⟩ | ⟨writable, outside, rfl⟩⟩
  · refine ⟨⟨fun _ => ⟨writable, inside⟩, fun _ => congrArg Prod.fst ended⟩, fun executable => ?_,
      fun _ outside => absurd inside outside⟩
    cases writable.symm.trans executable
  · refine ⟨⟨fun succeeded => ?_, fun both => ?_⟩, fun _ => congrArg Prod.fst ended,
      fun writable => ?_⟩
    · cases (congrArg Prod.fst ended).symm.trans succeeded
    · cases executable.symm.trans both.1
    · cases executable.symm.trans writable
  · refine ⟨⟨fun succeeded => ?_, fun both => absurd both.2 outside⟩, fun executable => ?_,
      fun _ _ => congrArg Prod.fst ended⟩
    · cases (congrArg Prod.fst ended).symm.trans succeeded
    · cases writable.symm.trans executable

/-- The bytes of the range are the new ones, all others the old ones. -/
theorem byte?_written {memory : Memory} (accessible : region.Accessible memory)
    (inside : offset.toNat + bytes.length ≤ region.size.toNat) :
    (∀ i < bytes.length,
      (region.written offset bytes memory).byte? (region.base.toNat + offset.toNat + i) =
        bytes[i]?) ∧
    ∀ address, ¬ (region.base.toNat + offset.toNat ≤ address ∧
      address < region.base.toNat + offset.toNat + bytes.length) →
      (region.written offset bytes memory).byte? address = memory.byte? address := by
  constructor
  · intro i short
    have mapped := accessible.isSome_byte?
      (by omega : region.base.toNat ≤ region.base.toNat + offset.toNat + i) (by omega)
    obtain ⟨byte, found⟩ := Option.isSome_iff_exists.mp mapped
    rw [written, Memory.byte?_overwrite, found, Option.map_some, if_pos (by omega),
      Nat.add_sub_cancel_left]
    simp [byteAt, short]
  · intro address outside
    rw [written, Memory.byte?_overwrite]
    simp only [if_neg outside]
    exact Option.map_id'

/-- What a write changes. -/
theorem write_effect (logging : Logging) (offset : UInt64) (bytes : List UInt8)
    (accessible : region.state = .writable → region.Accessible context.host.memory) :
    let ran := (region.write offset bytes).exec logging context
    let after := ran.2.host.memory
    (ran.1 = .ok () →
      (∀ i < bytes.length, after.byte? (region.base.toNat + offset.toNat + i) = bytes[i]?) ∧
      ∀ address, ¬ (region.base.toNat + offset.toNat ≤ address ∧
        address < region.base.toNat + offset.toNat + bytes.length) →
        after.byte? address = context.host.memory.byte? address) ∧
    (ran.1 ≠ .ok () → after = context.host.memory) ∧
    ran.2 = { context with host := { context.host with memory := after } } ∧
    after.perms? = context.host.memory.perms? := by
  intro ran after
  rcases write_cases logging offset bytes accessible with
    ⟨writable, inside, ended⟩ | ⟨error, ended, _⟩
  · have ranOk : ran = _ := ended
    have changed : after = region.written offset bytes context.host.memory := by
      show ran.2.host.memory = _
      rw [ranOk]
    rw [changed, ranOk]
    refine ⟨fun _ => byte?_written (accessible writable) inside, fun failed => absurd rfl failed,
      rfl, ?_⟩
    funext n
    exact Memory.map_perms_page?_overwrite _ _ _ _ n
  · have ranError : ran = _ := ended
    have same : after = context.host.memory := by
      show ran.2.host.memory = _
      rw [ranError]
    rw [same, ranError]
    refine ⟨fun succeeded => ?_, fun _ => rfl, rfl, rfl⟩
    cases succeeded

/-- Writes within the region to ranges without a common byte can be made in either order. -/
theorem exec_write_comm (logging : Logging) {other : UInt64} {more : List UInt8}
    (accessible : region.state = .writable → region.Accessible context.host.memory)
    (inside : offset.toNat + bytes.length ≤ region.size.toNat)
    (insideToo : other.toNat + more.length ≤ region.size.toNat)
    (apart : ∀ i, offset.toNat ≤ i → i < offset.toNat + bytes.length →
      ¬ (other.toNat ≤ i ∧ i < other.toNat + more.length)) :
    Effect.exec (do region.write offset bytes; region.write other more) logging context =
      Effect.exec (do region.write other more; region.write offset bytes) logging context := by
  rw [Effect.exec_bind, Effect.exec_bind]
  cases state : region.state with
  | executable => rw [exec_write_executable logging state, exec_write_executable logging state]
  | writable =>
      have writes := accessible state
      have commute : region.written other more (region.written offset bytes context.host.memory) =
          region.written offset bytes (region.written other more context.host.memory) := by
        refine Memory.overwrite_comm _ _ _ fun address low high both => ?_
        exact apart (address - region.base.toNat) (by omega) (by omega) (by omega)
      rw [exec_write logging writes state inside, exec_write logging writes state insideToo]
      dsimp only
      rw [exec_write logging (writes.overwrite _ _ _) state insideToo,
        exec_write logging (writes.overwrite _ _ _) state inside, commute]

/-- Once bytes are written, a read of their range returns them. -/
theorem exec_write_read (logging : Logging) (accessible : region.Accessible context.host.memory)
    (writable : region.state = .writable)
    (inside : offset.toNat + bytes.length ≤ region.size.toNat) :
    Effect.exec (do region.write offset bytes; region.read offset (offset + .ofNat bytes.length))
      logging context =
      (.ok bytes, ((region.write offset bytes).exec logging context).2) := by
  have bound := region.size.toNat_lt
  have stop : (offset + .ofNat bytes.length).toNat = offset.toNat + bytes.length := by
    rw [UInt64.toNat_add, UInt64.toNat_ofNat']
    omega
  have range : checkRange offset (offset + .ofNat bytes.length) region.size = .ok () := by
    rw [checkRange_eq_ok_iff, UInt64.le_iff_toNat_le, UInt64.le_iff_toNat_le, stop]
    omega
  have readable : (region.written offset bytes context.host.memory).permits Perms.readable
      (region.base.toNat + offset.toNat) bytes.length = true :=
    (accessible.overwrite _ _ _).permits (fun perms allowed => by simp [Perms.readable, allowed])
      inside
  have loaded : (region.written offset bytes context.host.memory).load
      (region.base.toNat + offset.toNat) bytes.length = bytes :=
    Memory.load_overwrite fun i short => accessible.isSome_byte? (by omega) (by omega)
  rw [Effect.exec_bind, exec_write logging accessible writable inside]
  simp [read, range, stop, exec_load, Memory.read?, readable, loaded]

end Region

/-- **A write to a region is exact.** Take any region, any offset and any bytes. If the region is
writable, let its bytes lie on pages that can be written.

* The write succeeds exactly if the region is writable and the bytes end within it, counted without
  overflow. If the region is executable, the state is what is wrong, whatever the offset and the
  bytes are; if it is writable, the argument is. There is no other outcome.
* If it succeeds, the bytes of the range are the new ones and all other bytes of memory are what
  they were.
* If not, memory is what it was. In any case the host calls, the log, the last error and the rest of
  the host are what they were, and so are all permissions.
* The sum, the range and the copy are checked one by one, and that comes to one comparison of
  numbers: none of the checks goes wrong, however many bytes there are.
* Two writes within the region to ranges without a common byte can be made in either order.
* A read of the range right after a write within the region returns the bytes. -/
theorem region_write_is_exact (logging : Logging) {region : Region} {context : Context}
    (offset : UInt64) (bytes : List UInt8) (accessible : region.state = .writable →
      region.Accessible context.host.memory) :
    let fits :=
      fun (offset : UInt64) (bytes : List UInt8) => offset.toNat + bytes.length ≤ region.size.toNat
    let ran := (region.write offset bytes).exec logging context
    let before := context.host.memory
    let after := ran.2.host.memory
    (ran.1 = .ok () ↔ region.state = .writable ∧ fits offset bytes) ∧
    (region.state = .executable → ran.1 = .error (.error .invalidState)) ∧
    (region.state = .writable → ¬ fits offset bytes → ran.1 = .error (.error .invalidArgument)) ∧
    (ran.1 = .ok () →
      (∀ i < bytes.length, after.byte? (region.base.toNat + offset.toNat + i) = bytes[i]?) ∧
      ∀ address, ¬ (region.base.toNat + offset.toNat ≤ address ∧
        address < region.base.toNat + offset.toNat + bytes.length) →
          after.byte? address = before.byte? address) ∧
    (ran.1 ≠ .ok () → after = before) ∧
    ran.2 = { context with host := { context.host with memory := after } } ∧
    after.perms? = before.perms? ∧
    region.write offset bytes = (do
      region.requireWritable
      if offset.toNat + bytes.length ≤ region.size.toNat then
        storeBytes (region.base.toNat + offset.toNat) bytes
      else fail .invalidArgument) ∧
    (∀ (other : UInt64) (more : List UInt8), fits offset bytes → fits other more →
      (∀ i, offset.toNat ≤ i → i < offset.toNat + bytes.length →
        ¬ (other.toNat ≤ i ∧ i < other.toNat + more.length)) →
      Effect.exec (do region.write offset bytes; region.write other more) logging context =
        Effect.exec (do region.write other more; region.write offset bytes) logging context) ∧
    (region.state = .writable → fits offset bytes →
      Effect.exec (do region.write offset bytes; region.read offset (offset + .ofNat bytes.length))
        logging context =
        (.ok bytes, ran.2)) := by
  intro fits ran before after
  obtain ⟨succeeds, locked, unfit⟩ := Region.write_outcome logging offset bytes accessible
  obtain ⟨changed, kept, quiet, perms⟩ := Region.write_effect logging offset bytes accessible
  exact ⟨succeeds, locked, unfit, changed, kept, quiet, perms,
    region.write_eq offset bytes,
    fun other more inside insideToo apart =>
      Region.exec_write_comm logging accessible inside insideToo apart,
    fun writable inside => Region.exec_write_read logging (accessible writable) writable inside⟩

/-- Six bytes at the start of one page. -/
def smallRegion : Region := ⟨0x10000000000, 6, .writable⟩

/-- That page is mapped, and nothing else. -/
def onePage : Context :=
  .start { Host.initial with memory := Memory.empty.mapPages ⟨0x10000000, 1⟩ .readWrite } .success

theorem region_write_is_exact_smallRegion :
    (smallRegion.state = .writable → smallRegion.Accessible onePage.host.memory) ∧
    ((smallRegion.write 4 [0xaa, 0xbb]).exec .silent onePage).1 = .ok () ∧
    ((smallRegion.write 4 [0xaa, 0xbb]).exec .silent onePage).2.host.memory.byte? 0x10000000005 =
      some 0xbb ∧
    ((smallRegion.write 4 [0xaa, 0xbb]).exec .silent onePage).2.host.memory.byte? 0x10000000006 =
      some 0 ∧
    ((smallRegion.write 0xffffffffffffffff [0, 0]).exec .silent onePage).1 =
      .error (.error .invalidArgument) ∧
    ((smallRegion.write 6 []).exec .silent onePage).1 = .ok () ∧
    Effect.exec (do smallRegion.write 4 [0xaa, 0xbb]; smallRegion.write 1 [1, 2, 3]) .silent
      onePage =
      Effect.exec (do smallRegion.write 1 [1, 2, 3]; smallRegion.write 4 [0xaa, 0xbb]) .silent
        onePage := by
  have accessible : smallRegion.state = .writable → smallRegion.Accessible onePage.host.memory := by
    intro _ address low high
    have base : smallRegion.base.toNat = 0x10000000000 := rfl
    have size : smallRegion.size.toNat = 6 := rfl
    have page : address / pageBytes = 0x10000000 := by
      unfold pageBytes
      omega
    rw [page]
    exact ⟨.readWrite, rfl, rfl⟩
  obtain ⟨succeeds, _, _, changed, _, _, _, _, comm, _⟩ :=
    region_write_is_exact .silent 4 [0xaa, 0xbb] accessible
  have fits := succeeds.mpr ⟨rfl, by decide⟩
  obtain ⟨inside, outside⟩ := changed fits
  exact ⟨accessible, fits, inside 1 (by decide), outside 0x10000000006 (by decide),
    (region_write_is_exact .silent 0xffffffffffffffff [0, 0] accessible).2.2.1 rfl (by decide),
    (region_write_is_exact .silent 6 [] accessible).1.mpr ⟨rfl, by decide⟩,
    comm 1 [1, 2, 3] (by decide) (by decide) (fun i low _ both => by
      have four : (4 : UInt64).toNat = 4 := rfl
      have three : (1 : UInt64).toNat + [(1 : UInt8), 2, 3].length = 4 := rfl
      omega)⟩

end ExecMemory
