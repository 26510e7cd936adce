import CpuUsage.Call
import CpuUsage.Catalog
import CpuUsage.MetricsStore

/-! The collaborators of the reports, as remote interfaces of a platform. -/
namespace CpuUsage

structure Platform where
  metrics : Api
  catalog : Catalog
  deriving DecidableEq

/-- Takes a call to the interface that answers it; what the user has set needs no request. -/
def Platform.ask (p : Platform) : Collaborators Wire
  | .instant query => MetricsStore.instant p.metrics query
  | .range query start stop step => MetricsStore.range p.metrics query start stop step
  | .read source start options => MetricsStore.read p.metrics source start options
  | .org => Session.pure p.catalog.org
  | .space => Session.pure p.catalog.space
  | .username => Session.pure p.catalog.username
  | .spaces => p.catalog.spaces
  | .application name => p.catalog.application name

end CpuUsage
