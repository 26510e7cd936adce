import CpuUsage.Call
import CpuUsage.Report.Basic
import CpuUsage.Usage.Spike

/-! One report per slot that either side of the usage knows. -/
namespace CpuUsage

abbrev InstanceReports : Type :=
  SortedMap InstanceId InstanceReport

namespace InstanceReports

/-- The last value of the window and its last spike; a slot without samples is left as it is. -/
def addHistorical (reports : InstanceReports) (slot : InstanceId) (samples : List UsageSample) : InstanceReports :=
  match samples.getLast? with
  | none => reports
  | some last => reports.alter slot fun old =>
    { old.getD (.new slot) with historical := ⟨last.value, Spike.detect entitlement samples⟩ }

/-- The value of a single sample; several would be ambiguous and none tells nothing. -/
def addCurrent (reports : InstanceReports) (slot : InstanceId) (samples : List UsageSample) : InstanceReports :=
  match samples with
  | [sample] => reports.alter slot fun old => { old.getD (.new slot) with current := ⟨sample.value⟩ }
  | _ => reports

def reconcile (historical current : Usage) : InstanceReports :=
  let reports := historical.entries.foldl (fun r e => r.addHistorical e.1 e.2) .empty
  current.entries.foldl (fun r e => r.addCurrent e.1 e.2) reports

/-- Asks for both sides, the historical one first. -/
def collect (historical current : Fetcher σ) (a : Application) : Session σ (List InstanceReport) := do
  let past ← historical a.guid a.instances
  let present ← current a.guid a.instances
  return (reconcile past present).values

end InstanceReports
end CpuUsage
