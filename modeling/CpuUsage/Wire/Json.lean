import CpuUsage.Json.Decode
import CpuUsage.Json.Encode
import CpuUsage.Wire

/-! Requests and replies as documents. -/
namespace CpuUsage
open Decoder

def Request.toJson (r : Request) : Json :=
  .ofFields [("method", .ofString "GET"), ("url", .ofString r.url.text),
    ("authorization", .ofList .ofString r.authorization)]

/-- A reply has a status, a body and perhaps a remark that the body broke off; null is a dropped connection. -/
def Reply.decode : Decoder Reply
  | .null => some .dropped
  | doc => do
    let [status, body, complete] ← fields ["status", "body", "complete"] doc | none
    return .answered (← required (natural 1000) status) (← required string body)
      (← withDefault true bool complete)

end CpuUsage
