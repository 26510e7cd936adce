import CpuUsage.Application.Basic
import CpuUsage.Binary64.Basic
import CpuUsage.Instant

/-! Usage samples and spikes. A usage value is used CPU over entitled CPU, so 1 is exactly the entitlement. -/
namespace CpuUsage

structure UsageSample where
  slot : InstanceId
  time : Instant
  value : Binary64
  deriving DecidableEq

abbrev Usage : Type :=
  SortedMap InstanceId (List UsageSample)

/-- The first and the last time of a run above the threshold. -/
structure Spike where
  start : Instant
  stop : Instant
  deriving DecidableEq

def Spike.isInstant (s : Spike) : Bool :=
  s.start = s.stop

end CpuUsage
