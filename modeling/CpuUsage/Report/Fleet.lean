import CpuUsage.Call
import CpuUsage.Report.Basic
import CpuUsage.Usage.Spike

/-! Which applications of an organization have an instance over its entitlement. -/
namespace CpuUsage

def Usage.exceeds (usage : Usage) : Bool :=
  usage.values.any fun samples => samples.any (·.exceeds entitlement)

/-- The applications of all spaces, each with the name of its space. -/
def placements (spaces : List Space) : List (String × Application) :=
  spaces.flatMap fun s => s.applications.map fun a => (s.name, a)

/-- The names of those that exceed their entitlement, each after the name of its space. -/
def exceeding (fetch : Fetcher σ) : List (String × Application) → Session σ (List (String × String))
  | [] => pure []
  | (space, a) :: rest => do
    let usage ← fetch a.guid a.instances
    let others ← exceeding fetch rest
    return if usage.exceeds then (space, a.name) :: others else others

namespace SpaceReport

/-- One report per space name, spaces and applications in the order of their names. -/
def group (pairs : List (String × String)) : List SpaceReport :=
  let byName : SortedMap String (List String) :=
    pairs.foldl (fun m p => m.alter p.1 fun old => old.getD [] ++ [p.2]) .empty
  byName.entries.map fun e => ⟨e.1, e.2.mergeSort fun a b => a ≤ b⟩

end SpaceReport

namespace FleetReport

def create (ask : Collaborators σ) (fetch : Fetcher σ) : Session σ FleetReport := do
  let org : String ← ask .org
  let username : String ← ask .username
  let spaces : List Space ← ask .spaces
  let pairs ← exceeding fetch (placements spaces)
  return ⟨org, username, SpaceReport.group pairs⟩

end FleetReport
end CpuUsage
