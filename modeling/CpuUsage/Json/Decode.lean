import CpuUsage.Json.Reader
import CpuUsage.Json.Number
import CpuUsage.Rfc3339
import CpuUsage.SortedMap

/-! Typed values out of documents. A record may be an object, whose other members are passed over and whose own may
not repeat, or an array of its fields in order. -/
namespace CpuUsage

abbrev Decoder (α : Type) : Type :=
  Json → Option α

namespace Decoder

def string : Decoder String
  | .string s => (Piece.meaning? s).map String.ofList
  | _ => none

def bool : Decoder Bool
  | .bool b => some b
  | _ => none

/-- A whole number of at least zero, below `bound`. -/
def natural (bound : Nat) : Decoder Nat
  | .number n => match n.value? with
    | some (.natural m) => if m < bound then some m else none
    | _ => none
  | _ => none

def uint32 : Decoder UInt32 :=
  fun doc => (natural uint32Bound doc).map UInt32.ofNat

def int64 : Decoder Int
  | .number n => match n.value? with
    | some (.natural m) => if fitsInt64 m then some m else none
    | some (.negative m) => some m
    | _ => none
  | _ => none

/-- Any number; a whole one is rounded to the nearest double. -/
def binary64 : Decoder Binary64
  | .number n => n.value?.map fun v => match v with
    | .natural m => Binary64.ofNat m
    | .negative m => Binary64.ofRatio true m.natAbs 1
    | .float x => x
  | _ => none

def instant : Decoder Instant :=
  fun doc => (string doc).bind Instant.readRfc3339?

/-- Null stands for nothing. -/
def nullable (inner : Decoder α) : Decoder (Option α)
  | .null => some none
  | doc => (inner doc).map some

def list (inner : Decoder α) : Decoder (List α)
  | .array items => items.mapM inner
  | _ => none

/-- An object with any names, the last member of a name counting. -/
def textMap (inner : Decoder α) : Decoder (SortedMap String α)
  | .object members => do
    let entries ← members.mapM fun (name, value) => do
      let name ← Piece.meaning? name
      let value ← inner value
      return (String.ofList name, value)
    return .ofList entries
  | _ => none

/-- A name spelt as a numeral, without escapes, that denotes a 32-bit number. -/
def numericName? (name : List Piece) : Option UInt32 := do
  let cs ← name.mapM fun
    | .plain c => some c
    | _ => none
  match readNumeral? cs with
  | some (n, []) => uint32 (.number n)
  | _ => none

/-- An object whose names are 32-bit numbers, the last member of a name counting. -/
def numberMap (inner : Decoder α) : Decoder (SortedMap UInt32 α)
  | .object members => do
    let entries ← members.mapM fun (name, value) => do
      let name ← numericName? name
      let value ← inner value
      return (name, value)
    return .ofList entries
  | _ => none

/-- What a record holds for one field: a value, no member of that name, or an array that ended before it. -/
inductive Field where
  | value (doc : Json)
  | missing
  | cut

def fieldOf (members : List (String × Json)) (name : String) : Option Field :=
  match members.filter (·.1 = name) with
  | [] => some .missing
  | [(_, doc)] => some (.value doc)
  | _ => none

def fields (names : List String) : Decoder (List Field)
  | .object members => do
    let members ← members.mapM fun (name, value) => do
      let name ← Piece.meaning? name
      return (String.ofList name, value)
    names.mapM (fieldOf members)
  | .array items =>
    if names.length < items.length then none
    else some (items.map .value ++ List.replicate (names.length - items.length) .cut)
  | _ => none

def required (inner : Decoder α) : Field → Option α
  | .value doc => inner doc
  | _ => none

/-- Absent from an object, the field holds nothing; an array must reach it. -/
def optional (inner : Decoder α) : Field → Option (Option α)
  | .value doc => nullable inner doc
  | .missing => some none
  | .cut => none

def withDefault (fallback : α) (inner : Decoder α) : Field → Option α
  | .value doc => inner doc
  | _ => some fallback

def pair (first : Decoder α) (second : Decoder β) : Decoder (α × β)
  | .array [x, y] => do
    let a ← first x
    let b ← second y
    return (a, b)
  | _ => none

end Decoder

def decodeText? (decoder : Decoder α) (text : String) : Option α :=
  (Json.read? text).bind decoder

namespace Json

def depth : Json → Nat
  | .array items => 1 + depthOfItems items
  | .object members => 1 + depthOfMembers members
  | .null | .bool _ | .number _ | .string _ => 0
where
  depthOfItems : List Json → Nat
    | [] => 0
    | item :: rest => max (depth item) (depthOfItems rest)
  depthOfMember : List Piece × Json → Nat
    | (_, value) => depth value
  depthOfMembers : List (List Piece × Json) → Nat
    | [] => 0
    | member :: rest => max (depthOfMember member) (depthOfMembers rest)

/-- Every literal stands for something: texts have no lone surrogates and numbers are within the doubles. -/
def isMeaningful : Json → Bool
  | .null | .bool _ => true
  | .number n => n.value?.isSome
  | .string s => (Piece.meaning? s).isSome
  | .array items => itemsAreMeaningful items
  | .object members => membersAreMeaningful members
where
  itemsAreMeaningful : List Json → Bool
    | [] => true
    | item :: rest => isMeaningful item && itemsAreMeaningful rest
  memberIsMeaningful : List Piece × Json → Bool
    | (name, value) => (Piece.meaning? name).isSome && isMeaningful value
  membersAreMeaningful : List (List Piece × Json) → Bool
    | [] => true
    | member :: rest => memberIsMeaningful member && membersAreMeaningful rest

end Json
end CpuUsage
