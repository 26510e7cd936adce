import CpuUsage.Application.Basic
import CpuUsage.Json.Decode
import CpuUsage.Json.Encode

/-! Applications and spaces as documents, in both directions. -/
namespace CpuUsage
open Decoder

namespace Instance

def toJson (i : Instance) : Json :=
  .ofFields [("instance_id", .ofUInt32 i.id), ("process_instance_id", .ofString i.process)]

def decode : Decoder Instance := fun doc => do
  let [id, process] ← fields ["instance_id", "process_instance_id"] doc | none
  return ⟨← required uint32 id, ← required string process⟩

end Instance

namespace Application

def toJson (a : Application) : Json :=
  .ofFields [("name", .ofString a.name), ("guid", .ofString a.guid),
    ("instances", .ofNumberMap Instance.toJson a.instances)]

def decode : Decoder Application := fun doc => do
  let [name, guid, instances] ← fields ["name", "guid", "instances"] doc | none
  return ⟨← required string name, ← required string guid, ← required (numberMap Instance.decode) instances⟩

end Application

namespace Space

def toJson (s : Space) : Json :=
  .ofFields [("name", .ofString s.name), ("applications", .ofList Application.toJson s.applications)]

def decode : Decoder Space := fun doc => do
  let [name, applications] ← fields ["name", "applications"] doc | none
  return ⟨← required string name, ← required (list Application.decode) applications⟩

end Space

end CpuUsage
