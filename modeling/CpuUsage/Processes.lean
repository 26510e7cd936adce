import CpuUsage.Call

/-! Which process fills each slot of an application. Entitlement envelopes are read newest first, a page at a time,
and the first one of a slot tells its process. -/
namespace CpuUsage

abbrev Processes : Type :=
  SortedMap InstanceId String

/-- How many envelopes a page has and how many pages are read at most; a zero counts as one. -/
structure Paging where
  limit : Nat
  maxPages : Nat
  deriving DecidableEq

namespace Paging

def default : Paging :=
  ⟨1000, 10⟩

def pageSize (p : Paging) : Nat :=
  max p.limit 1

def pageCount (p : Paging) : Nat :=
  max p.maxPages 1

end Paging

def Envelope.time? (e : Envelope) : Option Instant :=
  readNanos? e.timestamp

/-- The slot and the process that an envelope with a readable time tells. -/
def Envelope.process? (e : Envelope) : Option (InstanceId × String) := do
  let _ ← e.time?
  let slot ← readInstanceId? e.instanceId
  let process ← processOf? e.tags
  return (slot, process)

namespace Processes

/-- Adds what a page tells about slots that are still unknown. -/
def record (found : Processes) (page : List Envelope) : Processes :=
  (page.filterMap Envelope.process?).foldl (fun found p => found.insertNew p.1 p.2) found

/-- The last readable time of a page, where the next page resumes. -/
def resumeAt? (page : List Envelope) : Option Instant :=
  (page.filterMap Envelope.time?).getLast?

def pageOptions (limit : Nat) (stop : Option Instant) : ReadOptions :=
  ⟨stop, true, [.gauge], some entitlementMetric, some limit⟩

/-- Reads `pages` more pages at most. A page that is not full is the last, and so is one without a readable
time. -/
def readPages (ask : Collaborators σ) (guid : String) (limit : Nat) :
    Nat → Option Instant → Processes → Session σ Processes
  | 0, _, found => pure found
  | pages + 1, stop, found => do
    let page : List Envelope ← ask (.read guid .epoch (pageOptions limit stop))
    let found := found.record page
    if page.length < limit then return found
    else match resumeAt? page with
      | some time => readPages ask guid limit pages (some time) found
      | none => return found

def resolve (ask : Collaborators σ) (paging : Paging) (guid : String) : Session σ Processes :=
  readPages ask guid paging.pageSize paging.pageCount none .empty

end Processes
end CpuUsage
