import ExecMemory.Proofs.CallLog
import Mathlib.Data.Nat.Digits.Defs

/-!
# How the log reads

How a record reads is laid down here as a relation between the record and its severity, source and
wording, which does not go through the functions that print it.

* `Text.numeral` writes a word by its digits in base 16.
* `Errno.ReadsAs` looks an error number up in the host's table, or finds that it is not there.
* `Record.ReadsAs` is the format of the log, as far as host calls and regions write to it.
* The records that tell of host calls read that way (`LoggedAs.formatted`).
-/

namespace ExecMemory

/-! ## Numbers -/

/-- A word in hexadecimal after `0x`: its digits, most significant first. Zero has the digit
zero. -/
def Text.numeral (word : UInt64) : String :=
  "0x" ++ String.ofList
    (if word = 0 then ['0'] else (Nat.digits 16 word.toNat).reverse.map Nat.digitChar)

theorem toDigits_eq_digits {n : Nat} (positive : 0 < n) :
    Nat.toDigits 16 n = (Nat.digits 16 n).reverse.map Nat.digitChar := by
  induction n using Nat.strongRecOn with
  | ind n ih =>
      rw [Nat.digits_def' (by decide) positive, List.reverse_cons, List.map_append]
      by_cases oneDigit : n < 16
      · rw [Nat.toDigits_of_lt_base oneDigit, Nat.div_eq_of_lt oneDigit, Nat.mod_eq_of_lt oneDigit]
        rfl
      · have higher : 0 < n / 16 := by omega
        rw [Nat.toDigits_of_base_le (by decide) (by omega), ih (n / 16) (by omega) higher]
        rfl

theorem Text.hex_eq_numeral (word : UInt64) : Text.hex word = Text.numeral word := by
  unfold hex numeral
  by_cases zero : word = 0
  · rw [if_pos zero, zero]
    rfl
  · have positive : 0 < word.toNat := UInt64.lt_iff_toNat_lt.mp (UInt64.pos_iff_ne_zero.mpr zero)
    rw [if_neg zero, toDigits_eq_digits positive]

/-! ## Error numbers -/

/-- The text of an error number is its line in the host's table, or says that it has none there. -/
inductive Errno.ReadsAs (errno : Errno) : String → Prop
  | listed {number : Nat} {text : String} (code : errno.code.toInt = number)
      (entry : (number, text) ∈ descriptions) : ReadsAs errno text
  | unlisted (absent : ∀ number text, (number, text) ∈ descriptions → errno.code.toInt ≠ number) :
      ReadsAs errno ("OS error " ++ toString errno.code ++ " (strerror_r returned error 22)")

theorem Errno.readsAs_message (errno : Errno) : errno.ReadsAs errno.message := by
  unfold message description
  by_cases negative : errno.code < 0
  · -- the table has no negative numbers
    have below : errno.code.toInt < 0 := Int32.lt_iff_toInt_lt.mp negative
    rw [if_pos negative]
    exact .unlisted fun number _ _ => by omega
  · have above : 0 ≤ errno.code.toInt := Int.not_lt.mp fun below =>
      negative (Int32.lt_iff_toInt_lt.mpr below)
    have code : errno.code.toInt = errno.code.toInt.toNat := (Int.toNat_of_nonneg above).symm
    rw [if_neg negative]
    cases found : descriptions.lookup errno.code.toInt.toNat with
    | none =>
        refine .unlisted fun number text entry same => ?_
        have different := List.lookup_eq_none_iff.mp found _ entry
        rw [same, Int.toNat_natCast] at different
        exact bne_iff_ne.mp different rfl
    | some text =>
        obtain ⟨before, after, table, _⟩ := List.lookup_eq_some_iff.mp found
        exact .listed code (table ▸ List.mem_append_right before List.mem_cons_self)

/-! ## Records -/

namespace Record

/-- A number of bytes and where they are. -/
def span (length address : UInt64) : String :=
  Text.numeral length ++ " bytes at " ++ Text.numeral address

/-- The format of the log: severity, source and wording of the records that come of host calls and
of regions that are dropped. -/
inductive ReadsAs : Record → Level → String → String → Prop
  | mapped {length address : UInt64} :
      ReadsAs (.mapped length address) .trace "jit_shim::virtual_memory"
        ("mapped " ++ span length address)
  | reprotected {length address : UInt64} {flags : Flags} :
      ReadsAs (.reprotected length address flags) .trace "jit_shim::virtual_memory"
        ("protected " ++ span length address ++
          " as " ++ ("MemoryFlags(" ++ toString flags.bits ++ ")"))
  | unmapped {length address : UInt64} :
      ReadsAs (.unmapped length address) .trace "jit_shim::virtual_memory"
        ("unmapped " ++ span length address)
  | refused {kind : CallKind} {name reason : String} {length address : UInt64} {errno : Errno}
      (named : (kind, name) ∈ [(.map, "Map"), (.protect, "Protect"), (.unmap, "Unmap")])
      (explained : errno.ReadsAs reason) :
      ReadsAs (.refused kind length address errno) .debug "jit_shim::virtual_memory"
        (name ++ " of " ++ span length address ++ " failed: " ++ reason)
  | cannotRound {size : UInt64} :
      ReadsAs (.cannotRound size) .debug "jit_shim::virtual_memory"
        ("cannot round " ++ Text.numeral size ++ " bytes to whole pages")
  | notReleased {address : UInt64} {errno : Errno} {reason : String}
      (explained : errno.ReadsAs reason) :
      ReadsAs (.notReleased address (.invalidRegion errno)) .warn "jit_shim::region"
        ("failed to release JIT region at " ++ Text.numeral address ++
          ": " ++ ("invalid region: " ++ reason))
  | notReleasable {address : UInt64} :
      ReadsAs (.notReleased address .tooLarge) .warn "jit_shim::region"
        ("failed to release JIT region at " ++ Text.numeral address ++
          ": " ++ "requested size is too large")

/-- The record is printed in the format of the log. -/
def Formatted (record : Record) : Prop :=
  record.ReadsAs record.level record.target record.message

theorem rangeText_eq_span (length address : UInt64) :
    rangeText length address = span length address := by
  rw [rangeText, Text.hex_eq_numeral, Text.hex_eq_numeral, span]

theorem formatted_refused (kind : CallKind) (length address : UInt64) (errno : Errno) :
    (refused kind length address errno).Formatted := by
  have named : (kind, kind.text) ∈
      [(CallKind.map, "Map"), (.protect, "Protect"), (.unmap, "Unmap")] := by
    cases kind <;> simp [CallKind.text]
  show ReadsAs _ .debug "jit_shim::virtual_memory"
    (kind.text ++ " of " ++ rangeText length address ++ " failed: " ++ errno.message)
  rw [rangeText_eq_span]
  exact .refused named errno.readsAs_message

theorem formatted_cannotRound (size : UInt64) : (cannotRound size).Formatted := by
  show ReadsAs _ .debug "jit_shim::virtual_memory"
    ("cannot round " ++ Text.hex size ++ " bytes to whole pages")
  rw [Text.hex_eq_numeral]
  exact .cannotRound

end Record

theorem LoggedAs.formatted {call : SysCall} {record : Record} (logged : LoggedAs call record) :
    record.Formatted := by
  cases logged with
  | @mapped length address perms notNull =>
      show Record.ReadsAs _ .trace "jit_shim::virtual_memory"
        ("mapped " ++ Record.rangeText length address)
      rw [Record.rangeText_eq_span]
      exact .mapped
  | @reprotected address length value flags =>
      show Record.ReadsAs _ .trace "jit_shim::virtual_memory"
        ("protected " ++ Record.rangeText length address ++ " as " ++ flags.text)
      rw [Record.rangeText_eq_span]
      exact .reprotected
  | @unmapped address length value =>
      show Record.ReadsAs _ .trace "jit_shim::virtual_memory"
        ("unmapped " ++ Record.rangeText length address)
      rw [Record.rangeText_eq_span]
      exact .unmapped
  | refused | null => exact Record.formatted_refused _ _ _ _

end ExecMemory
