import CpuUsage.SortedMap

/-! Applications of the platform, the instances they run and the spaces they are deployed in. -/
namespace CpuUsage

/-- The slot that an instance fills; slots are filled again after a restart. -/
abbrev InstanceId : Type :=
  UInt32

structure Instance where
  id : InstanceId
  /-- Changes whenever another process takes over the slot. -/
  process : String
  deriving DecidableEq

abbrev Instances : Type :=
  SortedMap InstanceId Instance

structure Application where
  name : String
  guid : String
  instances : Instances
  deriving DecidableEq

structure Space where
  name : String
  applications : List Application
  deriving DecidableEq

namespace Application

def new (name guid : String) : Application :=
  ⟨name, guid, .empty⟩

/-- Replaces the instances; of two processes in one slot the later stays. -/
def withProcesses (a : Application) (processes : List (InstanceId × String)) : Application :=
  { a with instances := .ofList (processes.map fun p => (p.1, ⟨p.1, p.2⟩)) }

end Application

end CpuUsage
