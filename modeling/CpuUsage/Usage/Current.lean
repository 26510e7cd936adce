import CpuUsage.Usage.Cumulative

/-! Current usage: the ratio over the last reporting interval. A rate needs two points an interval apart, so fresh
instances have none; those are filled from a fallback. -/
namespace CpuUsage

/-- The usage that a sample tells, if it comes from the process that now fills a known slot. -/
def Sample.usageOf? (instances : Instances) (s : Sample) : Option UsageSample := do
  let slot ← slotOf? s.labels
  let i ← instances.get? slot
  if processOf? s.labels = some i.process then s.usage? else none

namespace Usage

/-- Adds what `fallback` has for those of `slots` that are missing. -/
def fill (usage fallback : Usage) (slots : List InstanceId) : Usage :=
  slots.foldl (fun filled slot => match fallback.get? slot with
    | some samples => filled.insertNew slot samples
    | none => filled) usage

def current (ask : Collaborators σ) (fallback : Fetcher σ) : Fetcher σ := fun guid instances => do
  let samples ← ask (.instant (rateQuery guid))
  let usage := ofSamples (Sample.usageOf? instances) samples
  if instances.size ≤ usage.size then return usage
  else
    let rest ← fallback guid instances
    return usage.fill rest instances.keys

end Usage
end CpuUsage
