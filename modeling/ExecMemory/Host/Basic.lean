import ExecMemory.Host.Plan
import ExecMemory.Memory.Layout

/-!
# The host

The host keeps the page table and answers three calls.

* A new mapping is zero filled and goes to an address that was never used before: mappings are
  placed from `mapBase` upwards with unmapped memory between them.
* A change of access acts page by page from the start of the range and stops at the first page that
  is not mapped; the pages before it keep the new permissions although the call fails.
* Taking a range back succeeds also where nothing is mapped.

The page size the host *reports* is a separate matter from the size of its pages, which is always
`pageBytes`.
-/

namespace ExecMemory

/-- The address of the first mapping. -/
def mapBase : Nat := 0x10000000000

/-- The first address that can never be mapped. -/
def addressLimit : UInt64 := 0x7ffffffff000

/-- Mappings are placed at multiples of this many bytes. -/
def placement : Nat := 0x100000

/-- The page table, and what decides about calls to come. -/
structure Host where
  /-- What is mapped. -/
  memory : Memory
  /-- The spans handed out so far, ascending; some of their pages may be gone again. -/
  placed : List Span
  /-- How far from `mapBase` the next mapping goes. -/
  cursor : Nat
  /-- Faults to come, in the order they were planned. -/
  plans : List Plan
  /-- The page size the host reports. -/
  pageSize : UInt64

namespace Host

/-- A fresh host: nothing is mapped and nothing planned. -/
def initial : Host where
  memory := .empty
  placed := []
  cursor := 0
  plans := []
  pageSize := .ofNat pageBytes

/-- The distance from a mapping of `length` bytes to the next one: there is always a gap. -/
def stride (length : UInt64) : Nat :=
  (length.toNat + (placement - 1)) / placement * placement + placement

/-- Maps fresh memory, unless the length is nothing or more than there are addresses, in all or
behind the cursor. -/
def map (host : Host) (length : UInt64) (perms : Perms) : Reply × Host :=
  if wholePages length = 0 ∨ addressLimit < wholePages length
      ∨ UInt64.size < mapBase + host.cursor + (wholePages length).toNat then
    (.error .outOfMemory, host)
  else
    let address : UInt64 := .ofNat (mapBase + host.cursor)
    let span := Span.ofRange address length
    (.ok address,
      { host with
        memory := host.memory.mapPages span perms
        placed := host.placed ++ [span]
        cursor := host.cursor + stride length })

/-- Changes the access to the pages of a range, up to the first one that is not mapped. -/
def protect (host : Host) (address length : UInt64) (perms : Perms) : Reply × Host :=
  if isPageStart address then
    if address < address + wholePages length then
      let span := Span.ofRange address length
      let mapped := host.memory.mappedCount span.first span.count
      let reply := if mapped = span.count then .ok 0 else .error .outOfMemory
      (reply, { host with memory := host.memory.protectPages ⟨span.first, mapped⟩ perms })
    else (.error .outOfMemory, host)
  else (.error .invalidArgument, host)

/-- Takes the pages of a range back. -/
def unmap (host : Host) (address length : UInt64) : Reply × Host :=
  if isPageStart address ∧ address ≤ addressLimit ∧ length ≤ addressLimit - address
      ∧ wholePages length ≠ 0 then
    (.ok 0, { host with memory := host.memory.unmapPages (.ofRange address length) })
  else (.error .invalidArgument, host)

/-- Answers a request that no fault spoils. -/
def serve (host : Host) : Request → Reply × Host
  | .map length perms => host.map length perms
  | .protect address length perms => host.protect address length perms
  | .unmap address length => host.unmap address length

/-- Answers a request, spoiled by the fault that is planned for it. -/
def call (host : Host) (request : Request) : Reply × Host :=
  let (fault, plans) := Plan.take request.kind host.plans
  let host := { host with plans }
  match fault with
  | none => host.serve request
  | some (.refuse _ errno) => (.error errno, host)
  | some (.resize length) => host.serve (request.withLength length)
  | some .null => (.ok 0, host)

/-- The extents of all mapped memory. -/
def layout (host : Host) : List Extent := host.memory.layout host.placed

end Host

end ExecMemory
