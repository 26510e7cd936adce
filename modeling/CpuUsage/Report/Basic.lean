import CpuUsage.Usage.Basic

/-! Reports on the instances of an application and on the applications of an organization. -/
namespace CpuUsage

/-- The last value in the window, not a mean. -/
structure HistoricalUsage where
  value : Binary64
  lastSpike : Option Spike
  deriving DecidableEq

structure CurrentUsage where
  value : Binary64
  deriving DecidableEq

structure InstanceReport where
  slot : InstanceId
  historical : HistoricalUsage
  current : CurrentUsage
  deriving DecidableEq

structure ApplicationReport where
  org : String
  space : String
  username : String
  application : String
  instances : List InstanceReport
  deriving DecidableEq

structure SpaceReport where
  space : String
  applications : List String
  deriving DecidableEq

structure FleetReport where
  org : String
  username : String
  spaces : List SpaceReport
  deriving DecidableEq

namespace InstanceReport

def new (id : InstanceId) : InstanceReport :=
  ⟨id, ⟨.zero, none⟩, ⟨.zero⟩⟩

def lastSpikeStart (r : InstanceReport) : Option Instant :=
  r.historical.lastSpike.map (·.start)

def lastSpikeStop (r : InstanceReport) : Option Instant :=
  r.historical.lastSpike.map (·.stop)

def hasSpike (r : InstanceReport) : Bool :=
  r.lastSpikeStop.isSome

end InstanceReport

def FleetReport.isEmpty (r : FleetReport) : Bool :=
  r.spaces.isEmpty

end CpuUsage
