import CpuUsage.Json.Text

/-! Reading a document from text by the strict grammar. Every step gives the text that is left; a nested value
costs at least one character, so the length of the text bounds the nesting. -/
namespace CpuUsage

def isJsonBlank (c : Char) : Bool :=
  c = ' ' || c = '\x09' || c = '\x0a' || c = '\x0d'

def skipJsonBlanks (cs : List Char) : List Char :=
  cs.dropWhile isJsonBlank

def isShortMark (c : Char) : Bool :=
  c = '\x22' || c = '\x5c' || c = '/' || c = 'b' || c = 'f' || c = 'n' || c = 'r' || c = 't'

def readLiteral? : List Char → Option (List Piece × List Char)
  | [] => none
  | '\x22' :: rest => some ([], rest)
  | '\x5c' :: 'u' :: a :: b :: c :: d :: rest =>
    if isHexDigit a && isHexDigit b && isHexDigit c && isHexDigit d then
      (readLiteral? rest).map fun (pieces, rest) => (.unit [a, b, c, d] :: pieces, rest)
    else none
  | '\x5c' :: mark :: rest =>
    if isShortMark mark then (readLiteral? rest).map fun (pieces, rest) => (.short mark :: pieces, rest)
    else none
  | c :: rest =>
    if c.toNat < 0x20 || c = '\x5c' then none
    else (readLiteral? rest).map fun (pieces, rest) => (.plain c :: pieces, rest)

def readDigits? (cs : List Char) : Option (List Char × List Char) :=
  let digits := cs.takeWhile isDigit
  if digits = [] then none else some (digits, cs.dropWhile isDigit)

/-- Whole digits: a zero by itself, or a run that does not start with one. -/
def readWhole? (cs : List Char) : Option (List Char × List Char) :=
  match readDigits? cs with
  | some ('0' :: _ :: _, _) => none
  | found => found

def readFraction? : List Char → Option (Option (List Char) × List Char)
  | '.' :: rest => (readDigits? rest).map fun (digits, rest) => (some digits, rest)
  | cs => some (none, cs)

def readSign : List Char → Option Char × List Char
  | '+' :: rest => (some '+', rest)
  | '-' :: rest => (some '-', rest)
  | cs => (none, cs)

def readPower? : List Char → Option (Option (Char × Option Char × List Char) × List Char)
  | [] => some (none, [])
  | mark :: rest =>
    if mark = 'e' ∨ mark = 'E' then
      let (sign, rest) := readSign rest
      (readDigits? rest).map fun (digits, rest) => (some (mark, sign, digits), rest)
    else some (none, mark :: rest)

def readNumeral? (cs : List Char) : Option (Numeral × List Char) := do
  let (negative, cs) := match cs with
    | '-' :: rest => (true, rest)
    | cs => (false, cs)
  let (whole, cs) ← readWhole? cs
  let (fraction, cs) ← readFraction? cs
  let (exponent, cs) ← readPower? cs
  return (⟨negative, whole, fraction, exponent⟩, cs)

namespace Json

mutual
def readValue? : Nat → List Char → Option (Json × List Char)
  | 0, _ => none
  | fuel + 1, cs =>
    match skipJsonBlanks cs with
    | 'n' :: 'u' :: 'l' :: 'l' :: rest => some (.null, rest)
    | 't' :: 'r' :: 'u' :: 'e' :: rest => some (.bool true, rest)
    | 'f' :: 'a' :: 'l' :: 's' :: 'e' :: rest => some (.bool false, rest)
    | '\x22' :: rest => (readLiteral? rest).map fun (s, rest) => (.string s, rest)
    | '[' :: rest =>
      match skipJsonBlanks rest with
      | ']' :: rest => some (.array [], rest)
      | rest => (readItems? fuel rest).map fun (items, rest) => (.array items, rest)
    | '\x7b' :: rest =>
      match skipJsonBlanks rest with
      | '\x7d' :: rest => some (.object [], rest)
      | rest => (readMembers? fuel rest).map fun (members, rest) => (.object members, rest)
    | cs => (readNumeral? cs).map fun (n, rest) => (.number n, rest)

/-- One item or more, up to the closing bracket. -/
def readItems? : Nat → List Char → Option (List Json × List Char)
  | 0, _ => none
  | fuel + 1, cs => do
    let (item, rest) ← readValue? fuel cs
    match skipJsonBlanks rest with
    | ']' :: rest => return ([item], rest)
    | ',' :: rest =>
      let (items, rest) ← readItems? fuel rest
      return (item :: items, rest)
    | _ => none

/-- One member or more, up to the closing brace. -/
def readMembers? : Nat → List Char → Option (List (List Piece × Json) × List Char)
  | 0, _ => none
  | fuel + 1, cs =>
    match skipJsonBlanks cs with
    | '\x22' :: rest => do
      let (name, rest) ← readLiteral? rest
      match skipJsonBlanks rest with
      | ':' :: rest =>
        let (value, rest) ← readValue? fuel rest
        match skipJsonBlanks rest with
        | '\x7d' :: rest => return ([(name, value)], rest)
        | ',' :: rest =>
          let (members, rest) ← readMembers? fuel rest
          return ((name, value) :: members, rest)
        | _ => none
      | _ => none
    | _ => none
end

def read? (text : String) : Option Json :=
  let cs := text.toList
  match readValue? (2 * cs.length + 2) cs with
  | some (doc, rest) => if skipJsonBlanks rest = [] then some doc else none
  | none => none

end Json
end CpuUsage
