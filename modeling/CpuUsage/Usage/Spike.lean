import CpuUsage.Usage.Basic

/-! The most recent spike: the last run of samples above a threshold, in a series ordered by time. -/
namespace CpuUsage

def UsageSample.exceeds (threshold : Binary64) (s : UsageSample) : Bool :=
  decide (threshold < s.value)

namespace Spike

/-- A spike that goes on at an earlier sample, or one that is met at its latest sample. -/
def reachBack (s : UsageSample) : Option Spike → Spike
  | some spike => { spike with start := s.time }
  | none => ⟨s.time, s.time⟩

/-- Goes back through the samples with what is found so far. A sample above the threshold belongs to the spike; any other
one ends the search once there is a spike, and is passed over before. -/
def scan (threshold : Binary64) : Option Spike → List UsageSample → Option Spike
  | found, [] => found
  | found, s :: earlier =>
    if s.exceeds threshold then scan threshold (some (reachBack s found)) earlier
    else if found.isSome then found
    else scan threshold found earlier

/-- From the earliest to the latest sample of the last run; nothing if no sample exceeds the threshold. -/
def detect (threshold : Binary64) (samples : List UsageSample) : Option Spike :=
  scan threshold none samples.reverse

end Spike

/-- Usage of exactly the entitlement. -/
def entitlement : Binary64 :=
  .one

end CpuUsage
