import CpuUsage.Call

/-! Historical usage: the ratio over a window, for the processes that are active now. Series of other processes are
left out. -/
namespace CpuUsage

structure Window where
  start : Instant
  stop : Instant
  deriving DecidableEq

def historyStepNanos : Nat :=
  15 * nanosPerSecond

/-- The samples of a series whose times can be read. -/
def Series.samplesOf (s : Series) (slot : InstanceId) : List UsageSample :=
  s.points.filterMap fun p => (readTime? p.time).map fun time => ⟨slot, time, p.value⟩

/-- The slot and the samples of a series of one of the `active` processes. -/
def Series.usageOf? (active : List String) (s : Series) : Option (InstanceId × List UsageSample) := do
  let process ← processOf? s.labels
  if process ∈ active then
    let slot ← slotOf? s.labels
    return (slot, s.samplesOf slot)
  else none

namespace Usage

/-- Samples of one slot together, earlier times first, equal times as they came; slots without samples are left
out. -/
def ofSeries (active : List String) (series : List Series) : Usage :=
  let grouped : Usage := (series.filterMap (Series.usageOf? active)).foldl
    (fun usage s => usage.alter s.1 fun old => old.getD [] ++ s.2) .empty
  (grouped.filter fun _ samples => !samples.isEmpty).mapValues fun samples =>
    samples.mergeSort fun a b => a.time ≤ b.time

def activeProcesses (samples : List Sample) : List String :=
  samples.filterMap fun s => processOf? s.labels

def historical (ask : Collaborators σ) (window : Window) : Fetcher σ := fun guid _ => do
  let samples ← ask (.instant (ratioQuery guid))
  let series ← ask (.range (ratioQuery guid) window.start window.stop historyStepNanos)
  return ofSeries (activeProcesses samples) series

end Usage
end CpuUsage
