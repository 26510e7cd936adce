import CpuUsage.Processes
import CpuUsage.Report.Instance

/-! The usage report of one application of the current space. -/
namespace CpuUsage.ApplicationReport

/-- An application without running instances has an empty report. One whose instances left no usage at all runs on
a platform without the metrics. -/
def create (ask : Collaborators σ) (paging : Paging) (historical current : Fetcher σ) (name : String) :
    Session σ ApplicationReport := do
  let org : String ← ask .org
  let space : String ← ask .space
  let username : String ← ask .username
  let found : Application ← ask (.application name)
  let processes ← Processes.resolve ask paging found.guid
  let a := found.withProcesses processes.entries
  if a.instances.isEmpty then return ⟨org, space, username, a.name, []⟩
  else
    let reports ← InstanceReports.collect historical current a
    if reports.isEmpty then Session.fail (.platform (.unsupportedDeployment a.name))
    else return ⟨org, space, username, a.name, reports⟩

end CpuUsage.ApplicationReport
