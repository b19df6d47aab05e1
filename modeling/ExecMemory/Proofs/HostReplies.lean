import ExecMemory.Proofs.Endings
import ExecMemory.Proofs.HostInvariant
import ExecMemory.Proofs.Rounding

/-!
# How the host answers

The turns of `Turns` leave open how the host answers. Here that is settled for ranges that lie where
the host puts its mappings (`Lies`): page-aligned, not empty, below the address limit.

* Where no fault changes lengths, a call is served, or refused, or answered with null (`Reaction`).
* A mapping lies at the cursor, and the cursor moves behind it (`Host.Ready.mapped`).
* A change of access to mapped pages succeeds for the whole range or is refused
  (`Lies.call_protect`).
* So does a release (`Lies.call_unmap`).
-/

namespace ExecMemory

/-! ## Ranges of whole pages -/

theorem toNat_addressLimit : addressLimit.toNat = 0x7ffffffff000 := rfl

/-- A length that does not vanish when it is rounded to whole pages is rounded without overflow. -/
theorem toNat_wholePages {length : UInt64} (nonempty : wholePages length ≠ 0) :
    (wholePages length).toNat = leastMultiple length.toNat pageBytes := by
  have bound := length.toNat_lt
  have value : (wholePages length).toNat =
      (length.toNat + (pageBytes - 1)) / pageBytes * pageBytes % 2 ^ 64 := UInt64.toNat_ofNat'
  have positive : (wholePages length).toNat ≠ 0 := by
    intro zero
    exact nonempty (UInt64.toNat_inj.mp zero)
  unfold leastMultiple
  unfold pageBytes at *
  omega

theorem le_wholePages {length : UInt64} (nonempty : wholePages length ≠ 0) :
    length.toNat ≤ (wholePages length).toNat := by
  rw [toNat_wholePages nonempty]
  exact le_leastMultiple _ (by decide)

theorem wholePages_mod {length : UInt64} (nonempty : wholePages length ≠ 0) :
    (wholePages length).toNat % pageBytes = 0 := by
  rw [toNat_wholePages nonempty]
  exact Nat.mul_mod_left _ _

/-- A range that begins a page and is not empty. -/
structure PageRange (base length : UInt64) : Prop where
  aligned : base.toNat % pageBytes = 0
  nonempty : wholePages length ≠ 0

namespace PageRange

variable {base length : UInt64} (range : PageRange base length)
include range

theorem wholePages_pos : 0 < (wholePages length).toNat := by
  apply Nat.pos_of_ne_zero
  intro zero
  exact range.nonempty (UInt64.toNat_inj.mp zero)

/-- The pages of the range are those between its ends. -/
theorem mem_ofRange_iff (n : Nat) :
    n ∈ Span.ofRange base length ↔
      base.toNat ≤ n * pageBytes ∧
        (n + 1) * pageBytes ≤ base.toNat + (wholePages length).toNat := by
  have aligned := range.aligned
  have whole := wholePages_mod range.nonempty
  rw [Span.mem_iff]
  unfold Span.ofRange
  unfold pageBytes at *
  dsimp only
  omega

/-- A byte of the range lies on a page of the range. -/
theorem page_mem {address : Nat} (low : base.toNat ≤ address)
    (high : address < base.toNat + length.toNat) :
    address / pageBytes ∈ Span.ofRange base length := by
  have aligned := range.aligned
  have whole := wholePages_mod range.nonempty
  have covers := le_wholePages range.nonempty
  rw [range.mem_ofRange_iff]
  unfold pageBytes at *
  omega

end PageRange

/-- A range that the host could have mapped: it also ends below the limit. -/
structure Lies (base length : UInt64) : Prop extends PageRange base length where
  below : base.toNat + (wholePages length).toNat ≤ addressLimit.toNat

/-! ## Faults that leave lengths alone -/

/-- The fault refuses a call or answers it with null; it does not change what is mapped. -/
def Fault.keepsLength : Fault → Bool
  | .resize _ => false
  | .refuse .. | .null => true

/-- No planned fault changes the length of a mapping. -/
def Host.Plain (host : Host) : Prop := ∀ plan ∈ host.plans, plan.fault.keepsLength = true

/-- Taking a fault leaves no fault that was not there before. -/
theorem Plan.take_faults {P : Fault → Prop} {kind : CallKind} {plans : List Plan}
    (all : ∀ plan ∈ plans, P plan.fault) :
    (∀ fault, (take kind plans).1 = some fault → P fault) ∧
      ∀ plan ∈ (take kind plans).2, P plan.fault := by
  induction plans with
  | nil =>
      refine ⟨fun fault taken => ?_, fun plan member => ?_⟩
      · cases taken
      · cases member
  | cons plan later ih =>
      have here := all plan List.mem_cons_self
      obtain ⟨ihFault, ihPlans⟩ := ih fun other member => all other (List.mem_cons_of_mem _ member)
      rw [take]
      split
      · split
        · refine ⟨fun fault taken => ?_,
            fun other member => all other (List.mem_cons_of_mem _ member)⟩
          cases taken
          exact here
        · refine ⟨fun fault taken => ?_, fun other member => ?_⟩
          · cases taken
          · rcases List.mem_cons.mp member with rfl | member
            · exact here
            · exact all other (List.mem_cons_of_mem _ member)
      · refine ⟨ihFault, fun other member => ?_⟩
        rcases List.mem_cons.mp member with rfl | member
        · exact here
        · exact ihPlans other member

/-- What a host without faults that change lengths makes of a request. -/
inductive Reaction (host : Host) (request : Request) : Reply → Host → Prop
  | served {plans : List Plan} {reply : Reply} {later : Host}
      (taken : Plan.take request.kind host.plans = (none, plans))
      (answer : { host with plans }.serve request = (reply, later)) :
      Reaction host request reply later
  | refused {plans : List Plan} {kind : CallKind} {errno : Errno}
      (taken : Plan.take request.kind host.plans = (some (.refuse kind errno), plans)) :
      Reaction host request (.error errno) { host with plans }
  | null {plans : List Plan} (taken : Plan.take request.kind host.plans = (some .null, plans))
      (maps : request.kind = .map) : Reaction host request (.ok 0) { host with plans }

namespace Host

variable {host later : Host} {request : Request} {reply : Reply} {length : UInt64} {perms : Perms}

theorem Plain.reaction (plain : host.Plain) (called : host.call request = (reply, later)) :
    Reaction host request reply later := by
  rcases taken : Plan.take request.kind host.plans with ⟨fault, plans⟩
  unfold Host.call at called
  rw [taken] at called
  obtain ⟨faultPlain, _⟩ :=
    @Plan.take_faults (fun fault => fault.keepsLength = true) request.kind _ plain
  rw [taken] at faultPlain
  rcases fault with _ | (⟨kind, errno⟩ | length | _)
  · exact .served taken called
  · cases called
    exact .refused taken
  · -- a plain host plans no other lengths
    cases faultPlain _ rfl
  · cases called
    have spoils := @Plan.kind_of_take request.kind host.plans .null (by rw [taken])
    exact .null taken spoils.symm

/-- The plans that are left are plain again. -/
theorem Plain.take (plain : host.Plain) {kind : CallKind} {fault : Option Fault}
    {plans : List Plan} (taken : Plan.take kind host.plans = (fault, plans)) :
    { host with plans }.Plain := by
  have left := (@Plan.take_faults (fun fault => fault.keepsLength = true) kind _ plain).2
  rw [taken] at left
  exact left

/-! ## Mapping fresh memory -/

/-- A length for which there are addresses. -/
def Addressable (length : UInt64) : Prop :=
  wholePages length ≠ 0 ∧ wholePages length ≤ addressLimit

instance (length : UInt64) : Decidable (Addressable length) :=
  inferInstanceAs (Decidable (_ ∧ _))

/-- The state of a host that has mapped `length` bytes at its cursor. -/
def mapped (host : Host) (length : UInt64) (perms : Perms) : Host :=
  let span := Span.ofRange (.ofNat (mapBase + host.cursor)) length
  { host with
    memory := host.memory.mapPages span perms
    placed := host.placed ++ [span]
    cursor := host.cursor + stride length }

theorem not_addressable_iff :
    ¬ Addressable length ↔ wholePages length = 0 ∨ addressLimit < wholePages length := by
  unfold Addressable
  rw [Classical.not_and_iff_not_or_not, Classical.not_not, UInt64.not_le]

/-- There are addresses left for a mapping of `length` bytes at the cursor. -/
def HasRoom (host : Host) (length : UInt64) : Prop :=
  mapBase + host.cursor + (wholePages length).toNat ≤ UInt64.size

instance (length : UInt64) : Decidable (host.HasRoom length) := inferInstanceAs (Decidable (_ ≤ _))

theorem map_eq : host.map length perms =
    if Addressable length ∧ host.HasRoom length then
      (.ok (.ofNat (mapBase + host.cursor)), host.mapped length perms)
    else (.error .outOfMemory, host) := by
  have refuses : (wholePages length = 0 ∨ addressLimit < wholePages length
      ∨ UInt64.size < mapBase + host.cursor + (wholePages length).toNat) ↔
      ¬ (Addressable length ∧ host.HasRoom length) := by
    rw [Classical.not_and_iff_not_or_not, not_addressable_iff, HasRoom, Nat.not_le, or_assoc]
  unfold Host.map
  by_cases room : Addressable length ∧ host.HasRoom length
  · rw [if_pos room, if_neg fun refused => refuses.mp refused room]
    rfl
  · rw [if_neg room, if_pos (refuses.mpr room)]

/-- A mapping that a plain host grants goes to its cursor. -/
theorem Plain.call_map {base : UInt64} (plain : host.Plain)
    (called : host.call (.map length perms) = (.ok base, later)) (notNull : base ≠ 0) :
    base = .ofNat (mapBase + host.cursor) ∧ Addressable length ∧
      ∃ plans, Plan.take .map host.plans = (none, plans) ∧
        later = { host with plans }.mapped length perms := by
  rcases plain.reaction called with ⟨taken, answer⟩ | _ | _
  · rename_i plans
    change Host.map _ length perms = _ at answer
    rw [map_eq] at answer
    split at answer
    · rename_i granted
      cases answer
      exact ⟨rfl, granted.1, plans, taken, rfl⟩
    · cases answer
  · exact absurd rfl notNull

/-- Where there is room behind the cursor, the address of the cursor does not wrap around. -/
theorem HasRoom.toNat_next (room : host.HasRoom length) (fits : Addressable length) :
    (UInt64.ofNat (mapBase + host.cursor)).toNat = mapBase + host.cursor := by
  have pages : (wholePages length).toNat ≠ 0 := fun zero => fits.1 (UInt64.toNat_inj.mp zero)
  apply UInt64.toNat_ofNat_of_lt'
  unfold HasRoom at room
  omega

/-- The host itself maps nothing at null: it begins at `mapBase`, and its addresses do not wrap
around. -/
theorem map_ne_null {value : UInt64} (answered : (host.map length perms).1 = .ok value) :
    value ≠ 0 := by
  rw [map_eq] at answered
  split at answered
  · rename_i granted
    cases answered
    intro null
    have address := granted.2.toNat_next granted.1
    rw [null] at address
    have zero : (0 : UInt64).toNat = 0 := rfl
    unfold mapBase at address
    omega
  · cases answered

/-- The cursor stands at the start of a page, and so does what is mapped there. -/
theorem pageRange_of_cursor (aligned : host.cursor % placement = 0) (fits : Addressable length) :
    PageRange (.ofNat (mapBase + host.cursor)) length := by
  refine ⟨?_, fits.1⟩
  rw [UInt64.toNat_ofNat']
  unfold mapBase placement pageBytes at *
  omega

/-- Everything the host ever handed out ends below the address limit. -/
def BelowLimit (host : Host) : Prop :=
  ∀ span ∈ host.placed, span.stop * pageBytes ≤ addressLimit.toNat

/-- The host is ready to map: no fault will change a length, and its cursor is in range. -/
structure Ready (host : Host) : Prop where
  plain : host.Plain
  cursor_mod : host.cursor % placement = 0
  cursor_le : mapBase + host.cursor ≤ addressLimit.toNat + 2 * placement

namespace Ready

variable {base : UInt64} {errno : Errno} {plans : List Plan} (ready : host.Ready)
include ready

theorem withPlans (plain : { host with plans }.Plain) : { host with plans }.Ready where
  plain := plain
  cursor_mod := ready.cursor_mod
  cursor_le := ready.cursor_le

theorem withMemory (memory : Memory) : { host with memory }.Ready where
  plain := ready.plain
  cursor_mod := ready.cursor_mod
  cursor_le := ready.cursor_le

/-- The address of the next mapping does not wrap around. -/
theorem toNat_next : (UInt64.ofNat (mapBase + host.cursor)).toNat = mapBase + host.cursor := by
  have bound := ready.cursor_le
  apply UInt64.toNat_ofNat_of_lt'
  rw [toNat_addressLimit] at bound
  unfold mapBase placement at *
  show _ < 2 ^ 64
  omega

theorem hasRoom (fits : Addressable length) : host.HasRoom length := by
  have bound := ready.cursor_le
  have small := UInt64.le_iff_toNat_le.mp fits.2
  rw [toNat_addressLimit] at bound small
  show _ ≤ 2 ^ 64
  unfold placement at bound
  omega

theorem pageRange (fits : Addressable length) :
    PageRange (.ofNat (mapBase + host.cursor)) length :=
  pageRange_of_cursor ready.cursor_mod fits

/-- A mapping that ends below the limit lies at the cursor, which moves behind it. -/
theorem mapped (fits : Addressable length) (below : (host.mapped length perms).BelowLimit) :
    Lies (.ofNat (mapBase + host.cursor)) length ∧ (host.mapped length perms).Ready ∧
      mapBase + host.cursor + (wholePages length).toNat ≤
        mapBase + (host.mapped length perms).cursor := by
  have placed := below (Span.ofRange (.ofNat (mapBase + host.cursor)) length)
    (List.mem_append_right _ List.mem_cons_self)
  have next := ready.toNat_next
  have aligned := ready.cursor_mod
  have whole := wholePages_mod fits.1
  have rounded := toNat_wholePages fits.1
  have covers := le_wholePages fits.1
  unfold Span.stop Span.ofRange at placed
  rw [next] at placed
  have ends : mapBase + host.cursor + (wholePages length).toNat ≤ addressLimit.toNat := by
    unfold mapBase placement pageBytes at *
    dsimp only at placed
    omega
  refine ⟨⟨ready.pageRange fits, ?_⟩, ⟨ready.plain, ?_, ?_⟩, ?_⟩
  · rw [next]
    exact ends
  · show (host.cursor + stride length) % placement = 0
    unfold stride placement at *
    omega
  · show mapBase + (host.cursor + stride length) ≤ _
    unfold stride placement at *
    omega
  · show _ ≤ mapBase + (host.cursor + stride length)
    rw [rounded]
    unfold leastMultiple stride placement pageBytes
    omega

theorem call_map (called : host.call (.map length perms) = (.ok base, later)) (notNull : base ≠ 0) :
    base = .ofNat (mapBase + host.cursor) ∧ Addressable length ∧
      ∃ plans, Plan.take .map host.plans = (none, plans) ∧
        later = { host with plans }.mapped length perms :=
  ready.plain.call_map called notNull

theorem call_map_error (called : host.call (.map length perms) = (.error errno, later)) :
    ∃ fault plans, Plan.take .map host.plans = (fault, plans) ∧ later = { host with plans } ∧
      ((∃ kind, fault = some (.refuse kind errno)) ∨
        fault = none ∧ ¬ Addressable length ∧ errno = .outOfMemory) := by
  rcases ready.plain.reaction called with ⟨taken, answer⟩ | taken | _
  · rename_i plans
    change Host.map _ length perms = _ at answer
    rw [map_eq] at answer
    split at answer
    · cases answer
    · rename_i refused
      cases answer
      exact ⟨none, plans, taken, rfl,
        .inr ⟨rfl, fun fits => refused ⟨fits, ready.hasRoom fits⟩, rfl⟩⟩
  · rename_i plans kind
    exact ⟨_, plans, taken, rfl, .inl ⟨kind, rfl⟩⟩

/-- A null answer is always a planned one. -/
theorem call_map_null (called : host.call (.map length perms) = (.ok 0, later)) :
    ∃ plans, Plan.take .map host.plans = (some .null, plans) ∧ later = { host with plans } := by
  rcases ready.plain.reaction called with ⟨taken, answer⟩ | _ | ⟨taken, _⟩
  · rename_i plans
    change Host.map _ length perms = _ at answer
    exact absurd rfl (map_ne_null (congrArg Prod.fst answer))
  · exact ⟨_, taken, rfl⟩

end Ready

end Host

/-! ## Changing access and taking memory back -/

/-- How a call turns out that the host can grant in full: the memory becomes `granted`, or a planned
fault refuses the call and nothing but the plans changes. -/
inductive Granted (host : Host) (kind : CallKind) (granted : Memory) : Reply → Host → Prop
  | granted {plans : List Plan} (taken : Plan.take kind host.plans = (none, plans)) :
      Granted host kind granted (.ok 0) { host with plans, memory := granted }
  | refused {plans : List Plan} {refusedKind : CallKind} {errno : Errno}
      (taken : Plan.take kind host.plans = (some (.refuse refusedKind errno), plans)) :
      Granted host kind granted (.error errno) { host with plans }

/-- The mapped pages reach to the end of a span whose pages are all mapped. -/
theorem Memory.mappedCount_eq {memory : Memory} {span : Span}
    (mapped : ∀ n ∈ span, (memory.page? n).isSome) :
    memory.mappedCount span.first span.count = span.count := by
  rcases Nat.lt_or_eq_of_le (memory.mappedCount_le span.first span.count) with short | full
  · have missing := memory.page?_mappedCount short
    have found := mapped _ (Span.mem_iff.mpr ⟨Nat.le_add_right _ _, Nat.add_lt_add_left short _⟩)
    rw [missing] at found
    cases found
  · exact full

namespace Lies

variable {base length : UInt64} {host later : Host} {perms : Perms} {reply : Reply}
  (lies : Lies base length)
include lies

theorem isPageStart : isPageStart base = true :=
  beq_iff_eq.mpr lies.aligned

theorem protect (host : Host)
    (mapped : ∀ n ∈ Span.ofRange base length, (host.memory.page? n).isSome) :
    host.protect base length perms =
      (.ok 0,
        { host with memory := host.memory.protectPages (.ofRange base length) perms }) := by
  have forward : base < base + wholePages length := by
    have below := lies.below
    have positive := lies.wholePages_pos
    rw [toNat_addressLimit] at below
    rw [UInt64.lt_iff_toNat_lt, UInt64.toNat_add]
    omega
  unfold Host.protect
  rw [if_pos lies.isPageStart, if_pos forward]
  simp only [Memory.mappedCount_eq mapped, if_pos]

theorem unmap :
    host.unmap base length =
      (.ok 0, { host with memory := host.memory.unmapPages (.ofRange base length) }) := by
  have below := lies.below
  have covers := le_wholePages lies.nonempty
  have start : base ≤ addressLimit := by
    rw [UInt64.le_iff_toNat_le]
    omega
  have rest : length ≤ addressLimit - base := by
    rw [UInt64.le_iff_toNat_le, UInt64.toNat_sub_of_le _ _ start]
    omega
  unfold Host.unmap
  rw [if_pos ⟨lies.isPageStart, start, rest, lies.nonempty⟩]

/-- A change of access to mapped pages succeeds as a whole or not at all. -/
theorem call_protect (plain : host.Plain)
    (mapped : ∀ n ∈ Span.ofRange base length, (host.memory.page? n).isSome)
    (called : host.call (.protect base length perms) = (reply, later)) :
    Granted host .protect (host.memory.protectPages (.ofRange base length) perms) reply later := by
  rcases plain.reaction called with ⟨taken, answer⟩ | taken | ⟨_, maps⟩
  · rename_i plans
    change Host.protect _ base length perms = _ at answer
    rw [lies.protect { host with plans } mapped] at answer
    cases answer
    exact .granted taken
  · exact .refused taken
  · cases maps

/-- So does a release, whether or not the pages are mapped. -/
theorem call_unmap (plain : host.Plain) (called : host.call (.unmap base length) = (reply, later)) :
    Granted host .unmap (host.memory.unmapPages (.ofRange base length)) reply later := by
  rcases plain.reaction called with ⟨taken, answer⟩ | taken | ⟨_, maps⟩
  · change Host.unmap _ base length = _ at answer
    rw [lies.unmap] at answer
    cases answer
    exact .granted taken
  · exact .refused taken
  · cases maps

end Lies

/-! ## What was handed out stays on record -/

theorem placed_invariant (span : Span) :
    HostInvariant (fun _ => True) (fun host => span ∈ host.placed) where
  call _ _ _ member := (Host.call_extends rfl).placed span member
  write _ _ _ _ _ _ member := member
  plan _ _ member := member
  pageSize _ _ member := member

namespace Host.BelowLimit

variable {host later : Host} {machine : Machine}

theorem of_call (below : later.BelowLimit) {request : Request} {reply : Reply}
    (called : host.call request = (reply, later)) : host.BelowLimit :=
  fun span member => below span ((Host.call_extends called).placed span member)

/-- If a run stays below the limit to its end, it does so from the beginning. -/
theorem of_run {logging : Logging} {steps : List Step}
    (below : (machine.run logging steps).2.host.BelowLimit) : machine.host.BelowLimit := by
  intro span member
  refine below span ((placed_invariant span).run trivial logging (fun step _ => ?_) member)
  unfold Step.Within
  split
  · trivial
  · trivial

end Host.BelowLimit

end ExecMemory
