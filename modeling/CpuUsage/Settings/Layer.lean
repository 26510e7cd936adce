import CpuUsage.Json.Decode
import CpuUsage.Settings.Value
import CpuUsage.Text.Case
import CpuUsage.Toml.Reader
import CpuUsage.Url.Form

/-! Sources of settings: a file, the environment and the command line, each laid over those before it. Names count in
lower case; one that is a path into a setting makes a table of it. -/
namespace CpuUsage

abbrev Layer : Type :=
  List (String × SettingValue)

abbrev Settled : Type :=
  SortedMap String SettingValue

namespace Layer

def isNameChar (c : Char) : Bool :=
  isLetterOrDigit c || c = ' ' || c = '_' || c = '-'

def isSpace (c : Char) : Bool :=
  c = ' ' || c = '\x09'

/-- An index in brackets, and what follows it. -/
def readIndex? (cs : List Char) : Option (List Char) :=
  let cs := cs.dropWhile isSpace
  let digits := match cs with
    | c :: rest => if c = '-' ∨ c = '+' then rest else cs
    | [] => []
  if (digits.takeWhile isDigit) = [] then none
  else match (digits.dropWhile isDigit).dropWhile isSpace with
    | ']' :: rest => some rest
    | _ => none

/-- Whether a text leads on into a setting, by names after dots and indices in brackets. -/
def isStep : Nat → List Char → Bool
  | _, [] => true
  | fuel + 1, '.' :: c :: rest => isNameChar c && isStep fuel (rest.dropWhile isNameChar)
  | fuel + 1, '[' :: rest => match readIndex? rest with
    | some rest => isStep fuel rest
    | none => false
  | _, _ => false

def pathRoot? (name : List Char) : Option (List Char) :=
  let root := name.takeWhile isNameChar
  let rest := name.dropWhile isNameChar
  if root ≠ [] ∧ rest ≠ [] ∧ isStep rest.length rest then some root else none

/-- The setting that a name means, and what it becomes. -/
def target (name : String) (v : SettingValue) : String × SettingValue :=
  let cs := name.toList.map lowerLetter
  match pathRoot? cs with
  | some root => (String.ofList root, .composite)
  | none => (String.ofList cs, v)

def apply (settled : Settled) (layer : Layer) : Settled :=
  layer.foldl (fun settled e =>
    let (name, v) := target e.1 e.2
    settled.insert name v) settled

def settle (layers : List Layer) : Settled :=
  layers.foldl apply .empty

def ofTomlValue : Toml → SettingValue
  | .string s | .time s => .text s
  | .integer n => .integer n
  | .float x => .float x
  | .boolean b => .bool b
  | .array _ | .table _ => .composite

def ofToml? (text : String) : Option Layer :=
  (Toml.read? text).map fun entries => entries.map fun e => (e.1, ofTomlValue e.2)

/-- Whole numbers beyond 64 bits of two's complement are doubles. -/
def ofNumber : Json.Number → SettingValue
  | .natural n => if fitsInt64 n then .integer n else .float (.ofNat n)
  | .negative n => .integer n
  | .float x => .float x

def ofJsonValue : Json → Option SettingValue
  | .null => some .nothing
  | .bool b => some (.bool b)
  | .number n => n.value?.map ofNumber
  | .string s => (Piece.meaning? s).map fun cs => .text (String.ofList cs)
  | doc => if doc.isMeaningful then some .composite else none

def maxJsonDepth : Nat :=
  127

def ofJson? (text : String) : Option Layer := do
  let doc ← Json.read? text
  if maxJsonDepth < doc.depth then none
  else
    let m ← Decoder.textMap ofJsonValue doc
    return m.entries

def variableMark : List Char :=
  "cpu_entitlement_".toList

/-- The setting that an environment variable is for. -/
def ofVariable? (v : String × String) : Option (String × SettingValue) :=
  let name := v.1.toList.map lowerLetter
  if variableMark.isPrefixOf name then
    some (String.ofList (name.drop variableMark.length), .text v.2)
  else none

def ofEnvironment (environment : List (String × String)) : Layer :=
  environment.filterMap ofVariable?

end Layer
end CpuUsage
