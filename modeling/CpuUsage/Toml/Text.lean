import CpuUsage.Json.Text
import CpuUsage.Toml.Basic

/-! Strings. Basic ones have escapes, literal ones have none; both come in a form that spans lines, whose first line
end does not count and which may hold up to two quotes in a row. -/
namespace CpuUsage.Toml

/-- The character with that number, unless it is a surrogate or beyond the last one. -/
def scalar? (digits : List Char) : Option Char :=
  let n := hexDigitsValue digits
  if digits.all isHexDigit ∧ n.isValidChar then some (Char.ofNat n) else none

def shortEscape? (mark : Char) : Option Char :=
  match mark with
  | 'b' => some '\x08'
  | 't' => some '\x09'
  | 'n' => some '\x0a'
  | 'f' => some '\x0c'
  | 'r' => some '\x0d'
  | '\x22' => some '\x22'
  | '\x5c' => some '\x5c'
  | _ => none

def consTo (c : Char) (read : Option (List Char × List Char)) : Option (List Char × List Char) :=
  read.map fun (text, rest) => (c :: text, rest)

def readBasic? : List Char → Option (List Char × List Char)
  | [] => none
  | '\x22' :: rest => some ([], rest)
  | '\x5c' :: 'u' :: a :: b :: c :: d :: rest =>
    match scalar? [a, b, c, d] with
    | some s => consTo s (readBasic? rest)
    | none => none
  | '\x5c' :: 'U' :: a :: b :: c :: d :: e :: f :: g :: h :: rest =>
    match scalar? [a, b, c, d, e, f, g, h] with
    | some s => consTo s (readBasic? rest)
    | none => none
  | '\x5c' :: mark :: rest =>
    match shortEscape? mark with
    | some s => consTo s (readBasic? rest)
    | none => none
  | c :: rest => if isTextChar c ∧ c ≠ '\x5c' then consTo c (readBasic? rest) else none

def readLiteral? : List Char → Option (List Char × List Char)
  | [] => none
  | '\x27' :: rest => some ([], rest)
  | c :: rest => if isTextChar c then consTo c (readLiteral? rest) else none

def isFiller (c : Char) : Bool :=
  isBlank c || c = '\x0a' || c = '\x0d'

/-- What follows a backslash that ends a line: the next character that is neither blank nor a line end. -/
def skipFolded? (cs : List Char) : Option (List Char) :=
  match skipBlanks cs with
  | '\x0a' :: rest => some (rest.dropWhile isFiller)
  | '\x0d' :: '\x0a' :: rest => some (rest.dropWhile isFiller)
  | _ => none

/-- A basic string over several lines, up to its closing quotes. -/
def readBasicLines? : Nat → List Char → Option (List Char × List Char)
  | 0, _ => none
  | fuel + 1, cs =>
    match cs with
    | [] => none
    | '\x22' :: '\x22' :: '\x22' :: '\x22' :: '\x22' :: rest => some (['\x22', '\x22'], rest)
    | '\x22' :: '\x22' :: '\x22' :: '\x22' :: rest => some (['\x22'], rest)
    | '\x22' :: '\x22' :: '\x22' :: rest => some ([], rest)
    | '\x0d' :: '\x0a' :: rest => consTo '\x0a' (readBasicLines? fuel rest)
    | '\x5c' :: 'u' :: a :: b :: c :: d :: rest =>
      match scalar? [a, b, c, d] with
      | some s => consTo s (readBasicLines? fuel rest)
      | none => none
    | '\x5c' :: 'U' :: a :: b :: c :: d :: e :: f :: g :: h :: rest =>
      match scalar? [a, b, c, d, e, f, g, h] with
      | some s => consTo s (readBasicLines? fuel rest)
      | none => none
    | '\x5c' :: mark :: rest =>
      match shortEscape? mark with
      | some s => consTo s (readBasicLines? fuel rest)
      | none =>
        match skipFolded? (mark :: rest) with
        | some rest => readBasicLines? fuel rest
        | none => none
    | c :: rest =>
      if (isTextChar c ∧ c ≠ '\x5c') ∨ c = '\x0a' then consTo c (readBasicLines? fuel rest) else none

/-- A literal string over several lines, up to its closing quotes. -/
def readLiteralLines? : List Char → Option (List Char × List Char)
  | [] => none
  | '\x27' :: '\x27' :: '\x27' :: '\x27' :: '\x27' :: rest => some (['\x27', '\x27'], rest)
  | '\x27' :: '\x27' :: '\x27' :: '\x27' :: rest => some (['\x27'], rest)
  | '\x27' :: '\x27' :: '\x27' :: rest => some ([], rest)
  | '\x0d' :: '\x0a' :: rest => consTo '\x0a' (readLiteralLines? rest)
  | c :: rest => if isTextChar c ∨ c = '\x0a' then consTo c (readLiteralLines? rest) else none

/-- The first line end of a string over several lines does not count. -/
def skipFirstLineEnd (cs : List Char) : List Char :=
  (readLineEnd? cs).getD cs

/-- A string of any form, or nothing where no quote opens one. -/
def readString? (cs : List Char) : Option (List Char × List Char) :=
  match cs with
  | '\x22' :: '\x22' :: '\x22' :: rest => readBasicLines? (rest.length + 1) (skipFirstLineEnd rest)
  | '\x22' :: rest => readBasic? rest
  | '\x27' :: '\x27' :: '\x27' :: rest => readLiteralLines? (skipFirstLineEnd rest)
  | '\x27' :: rest => readLiteral? rest
  | _ => none

end CpuUsage.Toml
