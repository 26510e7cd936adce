import CpuUsage.Text.Number

/-! Values of settings as their sources give them. What a setting asks for is read out of them generously: a number
may be written as text, and a truth value in several words. -/
namespace CpuUsage

inductive SettingValue where
  | nothing
  | bool (b : Bool)
  | integer (n : Int)
  | float (x : Binary64)
  | text (s : String)
  | composite
  deriving DecidableEq

namespace SettingValue

def lowerWord (s : String) : String :=
  String.ofList (s.toList.map asciiLower)

def wordBool? (s : String) : Option Bool :=
  match lowerWord s with
  | "true" | "on" | "yes" => some true
  | "false" | "off" | "no" => some false
  | _ => none

/-- All numbers but zero are true. -/
def toBool? : SettingValue → Option Bool
  | .bool b => some b
  | .integer n => some (n ≠ 0)
  | .float x => some (x.isNaN || x.units ≠ 0)
  | .text s => if s = "1" then some true else if s = "0" then some false else wordBool? s
  | .nothing | .composite => none

/-- The nearest whole number, halves away from zero, and the nearest bound where that is beyond them. -/
def roundWithin (low high : Int) (x : Binary64) : Int :=
  if x.isNaN then 0
  else
    let magnitude : Int := Int.ofNat ((2 * x.units + Nat.pow 2 1074) / Nat.pow 2 1075)
    max low (min high (if x.negative then -magnitude else magnitude))

def ofBool (b : Bool) : Int :=
  if b then 1 else 0

/-- A whole number from `low` to `high`, which `read` reads from text. -/
def toWhole? (low high : Int) (read : List Char → Option Int) : SettingValue → Option Int
  | .bool b => some (ofBool b)
  | .integer n => if low ≤ n ∧ n ≤ high then some n else none
  | .float x => some (roundWithin low high x)
  | .text s => match wordBool? s with
    | some b => some (ofBool b)
    | none => read s.toList
  | .nothing | .composite => none

def toInt64? : SettingValue → Option Int :=
  toWhole? (-9223372036854775808) 9223372036854775807 readInt64?

def toNat64? (v : SettingValue) : Option Nat :=
  (toWhole? 0 18446744073709551615 (fun cs => (readUnsigned? uint64Bound cs).map Int.ofNat) v).map Int.toNat

def toText? : SettingValue → Option String
  | .bool b => some (if b then "true" else "false")
  | .integer n => some (toString n)
  | .float x => some (String.ofList x.positional)
  | .text s => some s
  | .nothing | .composite => none

/-- Nothing stands for no text. -/
def toOptionalText? : SettingValue → Option (Option String)
  | .nothing => some none
  | v => v.toText?.map some

end SettingValue
end CpuUsage
