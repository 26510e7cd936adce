import CpuUsage.Call

/-! Cumulative usage: the ratio at the present time, one sample per slot. Samples are not matched against processes,
so applications whose instances are unknown can be classified too. -/
namespace CpuUsage

/-- The usage that a sample tells, if its slot and its time can be read. -/
def Sample.usage? (s : Sample) : Option UsageSample := do
  let slot ← slotOf? s.labels
  let time ← readTime? s.point.time
  return ⟨slot, time, s.point.value⟩

namespace Usage

/-- The first accepted sample of every slot. -/
def ofSamples (accept : Sample → Option UsageSample) (samples : List Sample) : Usage :=
  (samples.filterMap accept).foldl (fun usage u => usage.insertNew u.slot [u]) .empty

def cumulative (ask : Collaborators σ) : Fetcher σ := fun guid _ => do
  let samples ← ask (.instant (ratioQuery guid))
  return ofSamples Sample.usage? samples

end Usage
end CpuUsage
