import CpuUsage.Json.Text
import CpuUsage.Json.Number

/-! Documents as text: on one line without blanks, or spread over lines with two spaces per level. -/
namespace CpuUsage

def Piece.write : Piece → List Char
  | .plain c => [c]
  | .short m => ['\x5c', m]
  | .unit d => '\x5c' :: 'u' :: d

def writeLiteral (s : List Piece) : List Char :=
  '\x22' :: s.flatMap Piece.write ++ ['\x22']

def Numeral.write (n : Numeral) : List Char :=
  (if n.negative then ['-'] else []) ++ n.whole ++
  (match n.fraction with
    | none => []
    | some f => '.' :: f) ++
  (match n.exponent with
    | none => []
    | some (mark, sign, digits) => mark :: sign.toList ++ digits)

namespace Json

mutual
def write : Json → List Char
  | .null => ['n', 'u', 'l', 'l']
  | .bool true => ['t', 'r', 'u', 'e']
  | .bool false => ['f', 'a', 'l', 's', 'e']
  | .number n => n.write
  | .string s => writeLiteral s
  | .array items => '[' :: writeItems items ++ [']']
  | .object members => '\x7b' :: writeMembers members ++ ['\x7d']

def writeItems : List Json → List Char
  | [] => []
  | [item] => write item
  | item :: rest => write item ++ ',' :: writeItems rest

def writeMember : List Piece × Json → List Char
  | (name, value) => writeLiteral name ++ ':' :: write value

def writeMembers : List (List Piece × Json) → List Char
  | [] => []
  | [member] => writeMember member
  | member :: rest => writeMember member ++ ',' :: writeMembers rest
end

def newLine (depth : Nat) : List Char :=
  '\x0a' :: List.replicate (2 * depth) ' '

mutual
def indent (depth : Nat) : Json → List Char
  | .array [] => ['[', ']']
  | .array items => '[' :: newLine (depth + 1) ++ indentItems (depth + 1) items ++ newLine depth ++ [']']
  | .object [] => ['\x7b', '\x7d']
  | .object members =>
    '\x7b' :: newLine (depth + 1) ++ indentMembers (depth + 1) members ++ newLine depth ++ ['\x7d']
  | .null => write .null
  | .bool b => write (.bool b)
  | .number n => write (.number n)
  | .string s => write (.string s)

def indentItems (depth : Nat) : List Json → List Char
  | [] => []
  | [item] => indent depth item
  | item :: rest => indent depth item ++ ',' :: newLine depth ++ indentItems depth rest

def indentMember (depth : Nat) : List Piece × Json → List Char
  | (name, value) => writeLiteral name ++ ':' :: ' ' :: indent depth value

def indentMembers (depth : Nat) : List (List Piece × Json) → List Char
  | [] => []
  | [member] => indentMember depth member
  | member :: rest => indentMember depth member ++ ',' :: newLine depth ++ indentMembers depth rest
end

def compact (doc : Json) : String :=
  String.ofList doc.write

def pretty (doc : Json) : String :=
  String.ofList (doc.indent 0)

end Json
end CpuUsage
