import CpuUsage.Report.Basic
import CpuUsage.Usage.Json

/-! Reports as documents, in both directions. -/
namespace CpuUsage
open Decoder

namespace HistoricalUsage

def toJson (u : HistoricalUsage) : Json :=
  .ofFields [("value", .ofBinary64 u.value), ("last_spike", .ofOption Spike.toJson u.lastSpike)]

def decode : Decoder HistoricalUsage := fun doc => do
  let [value, spike] ← fields ["value", "last_spike"] doc | none
  return ⟨← required binary64 value, ← optional Spike.decode spike⟩

end HistoricalUsage

namespace CurrentUsage

def toJson (u : CurrentUsage) : Json :=
  .ofFields [("value", .ofBinary64 u.value)]

def decode : Decoder CurrentUsage := fun doc => do
  let [value] ← fields ["value"] doc | none
  return ⟨← required binary64 value⟩

end CurrentUsage

namespace InstanceReport

def toJson (r : InstanceReport) : Json :=
  .ofFields [("instance_id", .ofUInt32 r.slot), ("historical_usage", r.historical.toJson),
    ("current_usage", r.current.toJson)]

def decode : Decoder InstanceReport := fun doc => do
  let [id, historical, current] ← fields ["instance_id", "historical_usage", "current_usage"] doc | none
  return ⟨← required uint32 id, ← required HistoricalUsage.decode historical,
    ← required CurrentUsage.decode current⟩

end InstanceReport

namespace ApplicationReport

def toJson (r : ApplicationReport) : Json :=
  .ofFields [("org", .ofString r.org), ("space", .ofString r.space),
    ("username", .ofString r.username), ("application_name", .ofString r.application),
    ("instance_reports", .ofList InstanceReport.toJson r.instances)]

def decode : Decoder ApplicationReport := fun doc => do
  let [org, space, username, application, instances] ←
    fields ["org", "space", "username", "application_name", "instance_reports"] doc | none
  return ⟨← required string org, ← required string space, ← required string username,
    ← required string application, ← required (list InstanceReport.decode) instances⟩

end ApplicationReport

namespace SpaceReport

def toJson (r : SpaceReport) : Json :=
  .ofFields [("space_name", .ofString r.space), ("apps", .ofList .ofString r.applications)]

def decode : Decoder SpaceReport := fun doc => do
  let [space, applications] ← fields ["space_name", "apps"] doc | none
  return ⟨← required string space, ← required (list string) applications⟩

end SpaceReport

namespace FleetReport

def toJson (r : FleetReport) : Json :=
  .ofFields [("org", .ofString r.org), ("username", .ofString r.username),
    ("space_reports", .ofList SpaceReport.toJson r.spaces)]

def decode : Decoder FleetReport := fun doc => do
  let [org, username, spaces] ← fields ["org", "username", "space_reports"] doc | none
  return ⟨← required string org, ← required string username, ← required (list SpaceReport.decode) spaces⟩

end FleetReport
end CpuUsage
