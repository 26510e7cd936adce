import CpuUsage.Toml.Scalar
import CpuUsage.Toml.Tables
import CpuUsage.Toml.Text

/-! Reading a document line by line. Containers may be nested 79 deep, and dotted names may have as many parts. -/
namespace CpuUsage.Toml

def maxDepth : Nat :=
  79

def isBareChar (c : Char) : Bool :=
  isDigit c || ('a' ≤ c && c ≤ 'z') || ('A' ≤ c && c ≤ 'Z') || c = '_' || c = '-'

/-- A bare name, or a quoted one on a single line. -/
def readName? (cs : List Char) : Option (String × List Char) :=
  match cs with
  | '\x22' :: rest => (readBasic? rest).map fun (s, rest) => (String.ofList s, rest)
  | '\x27' :: rest => (readLiteral? rest).map fun (s, rest) => (String.ofList s, rest)
  | cs =>
    let name := cs.takeWhile isBareChar
    if name = [] then none else some (String.ofList name, cs.dropWhile isBareChar)

/-- Names with dots between them and blanks around them. -/
def readNames? : Nat → List Char → Option (List String × List Char)
  | 0, _ => none
  | fuel + 1, cs => do
    let (name, rest) ← readName? (skipBlanks cs)
    match skipBlanks rest with
    | '.' :: rest =>
      let (names, rest) ← readNames? fuel rest
      return (name :: names, rest)
    | rest => return ([name], rest)

/-- A dotted name as its path and its last part. -/
def readKey? (cs : List Char) : Option (List String × String × List Char) := do
  let (names, rest) ← readNames? maxDepth cs
  let last ← names.getLast?
  return (names.dropLast, last, rest)

/-- Blanks, line ends and comments, which may stand between the items of an array. -/
def skipLines : Nat → List Char → List Char
  | 0, cs => cs
  | fuel + 1, cs =>
    let cs := skipComment (skipBlanks cs)
    match readLineEnd? cs with
    | some rest => skipLines fuel rest
    | none => cs

mutual
/-- A value; each container around it takes from `depth`. -/
def readValue? : Nat → Nat → List Char → Option (Toml × List Char)
  | 0, _, _ => none
  | fuel + 1, depth, cs =>
    match cs with
    | '[' :: rest => do
      let (items, rest) ← if depth = 0 then none else readItems? fuel (depth - 1) rest
      return (.array items, rest)
    | '\x7b' :: rest => do
      let (entries, rest) ← match depth, skipBlanks rest with
        | 0, _ => none
        | _, '\x7d' :: rest => some ([], rest)
        | depth + 1, rest => readPairs? fuel depth [] rest
      return (.table (entriesToToml entries), rest)
    | '\x22' :: _ => (readString? cs).map fun (s, rest) => (.string (String.ofList s), rest)
    | '\x27' :: _ => (readString? cs).map fun (s, rest) => (.string (String.ofList s), rest)
    | cs => do
      let (word, rest) := splitWord cs
      return (← readWord? word, rest)

/-- The items of an array up to its bracket; a comma may follow the last one. -/
def readItems? : Nat → Nat → List Char → Option (List Toml × List Char)
  | 0, _, _ => none
  | fuel + 1, depth, cs =>
    match skipLines cs.length cs with
    | ']' :: rest => some ([], rest)
    | cs => do
      let (item, rest) ← readValue? fuel depth cs
      match skipLines rest.length rest with
      | ']' :: rest => return ([item], rest)
      | ',' :: rest =>
        let (items, rest) ← readItems? fuel depth rest
        return (item :: items, rest)
      | _ => none

/-- The pairs of a table on one line, one at least, up to its brace. -/
def readPairs? : Nat → Nat → Entries → List Char → Option (Entries × List Char)
  | 0, _, _, _ => none
  | fuel + 1, depth, entries, cs => do
    let (path, name, rest) ← readKey? cs
    match rest with
    | '=' :: rest =>
      let (v, rest) ← readValue? fuel depth (skipBlanks rest)
      let entries ← assign path name v entries
      match skipBlanks rest with
      | '\x7d' :: rest => return (entries, rest)
      | ',' :: rest => readPairs? fuel depth entries rest
      | _ => none
    | _ => none
end

def readStatement? (cs : List Char) : Option (Statement × List Char) :=
  match cs with
  | '[' :: '[' :: rest => do
    let (path, name, rest) ← readKey? rest
    match rest with
    | ']' :: ']' :: rest => return (.item path name, rest)
    | _ => none
  | '[' :: rest => do
    let (path, name, rest) ← readKey? rest
    match rest with
    | ']' :: rest => return (.header path name, rest)
    | _ => none
  | cs => do
    let (path, name, rest) ← readKey? cs
    match rest with
    | '=' :: rest =>
      let (v, rest) ← readValue? (2 * cs.length + 2) maxDepth (skipBlanks rest)
      return (.pair path name v, rest)
    | _ => none

/-- What stands behind the end of a line, before which there may be nothing but a comment. -/
def endLine? (cs : List Char) : Option (List Char) :=
  match skipComment cs with
  | [] => some []
  | cs => readLineEnd? cs

/-- The statements of all lines; each line takes at least one character. -/
def readStatements? : Nat → List Char → Option (List Statement)
  | 0, _ => none
  | fuel + 1, cs =>
    match skipBlanks cs with
    | [] => some []
    | c :: rest =>
      if c = '#' ∨ c = '\x0a' ∨ c = '\x0d' then (endLine? (c :: rest)).bind (readStatements? fuel)
      else do
        let (statement, rest) ← readStatement? (c :: rest)
        let rest ← endLine? (skipBlanks rest)
        let statements ← readStatements? fuel rest
        return statement :: statements

def read? (text : String) : Option (List (String × Toml)) :=
  let cs := match text.toList with
    | '\ufeff' :: rest => rest
    | cs => cs
  (readStatements? (cs.length + 1) cs).bind ofStatements?

end CpuUsage.Toml
