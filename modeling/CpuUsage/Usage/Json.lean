import CpuUsage.Json.Decode
import CpuUsage.Json.Encode
import CpuUsage.Usage.Basic

/-! Samples and spikes as documents, in both directions. -/
namespace CpuUsage
open Decoder

namespace UsageSample

def toJson (s : UsageSample) : Json :=
  .ofFields [("instance_id", .ofUInt32 s.slot), ("time", .ofInstant s.time),
    ("value", .ofBinary64 s.value)]

def decode : Decoder UsageSample := fun doc => do
  let [id, time, value] ← fields ["instance_id", "time", "value"] doc | none
  return ⟨← required uint32 id, ← required instant time, ← required binary64 value⟩

end UsageSample

namespace Spike

def toJson (s : Spike) : Json :=
  .ofFields [("from", .ofInstant s.start), ("to", .ofInstant s.stop)]

def decode : Decoder Spike := fun doc => do
  let [start, stop] ← fields ["from", "to"] doc | none
  return ⟨← required instant start, ← required instant stop⟩

end Spike

end CpuUsage
