import CpuUsage.Json.Text
import CpuUsage.Json.Number
import CpuUsage.Rfc3339
import CpuUsage.SortedMap

/-! Documents for typed values: records as objects with their fields in order. -/
namespace CpuUsage.Json

def ofUInt32 (n : UInt32) : Json :=
  .ofNat n.toNat

def ofInstant (t : Instant) : Json :=
  .ofString t.rfc3339

def ofList (encode : α → Json) (xs : List α) : Json :=
  .array (xs.map encode)

def ofOption (encode : α → Json) : Option α → Json
  | none => .null
  | some a => encode a

def ofFields (fields : List (String × Json)) : Json :=
  .object (fields.map fun f => (f.1.toList.map Piece.ofChar, f.2))

/-- An object whose names are the numbers in order. -/
def ofNumberMap (encode : α → Json) (m : SortedMap UInt32 α) : Json :=
  .ofFields (m.entries.map fun e => (String.ofList (Nat.toDigits 10 e.1.toNat), encode e.2))

end CpuUsage.Json
