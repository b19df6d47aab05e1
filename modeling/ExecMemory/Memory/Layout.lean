import ExecMemory.Memory.Basic
import ExecMemory.Text.Hex

/-!
# The layout of mapped memory

The mapped pages are shown as extents: maximal runs of neighbouring pages with equal permissions, in
ascending order, each as `0x<start>-0x<stop> rwx`.
-/

namespace ExecMemory

/-- Neighbouring mapped pages with equal permissions, from page `first` up to but not including page
`stop`. -/
structure Extent where
  first : Nat
  stop : Nat
  perms : Perms
  deriving DecidableEq

namespace Extent

/-- Joins ascending pages into maximal extents. -/
def join : List (Nat × Perms) → List Extent
  | [] => []
  | (page, perms) :: rest =>
    match join rest with
    | [] => [⟨page, page + 1, perms⟩]
    | next :: others =>
      if next.first = page + 1 ∧ next.perms = perms then { next with first := page } :: others
      else ⟨page, page + 1, perms⟩ :: next :: others

/-- The first address, the address behind the last, and the permissions. -/
def text (extent : Extent) : String :=
  let address (page : Nat) := Text.hex (.ofNat (page * pageBytes))
  address extent.first ++ "-" ++ address extent.stop ++ " " ++ extent.perms.text

end Extent

/-- The mapped pages of a span with their permissions, ascending. -/
def Memory.pagesIn (memory : Memory) (span : Span) : List (Nat × Perms) :=
  (List.range' span.first span.count).filterMap fun n =>
    (memory.page? n).map fun page => (n, page.perms)

/-- The extents of the memory mapped within ascending spans. -/
def Memory.layout (memory : Memory) (spans : List Span) : List Extent :=
  Extent.join (spans.flatMap memory.pagesIn)

end ExecMemory
