import CpuUsage.Binary64.Basic

/-! Documents of the TOML 1.0 format: tables of named values. Dates and times are kept as normalized text. -/
namespace CpuUsage

inductive Toml where
  | string (s : String)
  | integer (n : Int)
  | float (x : Binary64)
  | boolean (b : Bool)
  | time (text : String)
  | array (items : List Toml)
  | table (entries : List (String × Toml))

namespace Toml

def isBlank (c : Char) : Bool :=
  c = ' ' || c = '\x09'

def skipBlanks (cs : List Char) : List Char :=
  cs.dropWhile isBlank

/-- Characters of comments and strings: tabs, and all that is not a control character. -/
def isTextChar (c : Char) : Bool :=
  c = '\x09' || (0x20 ≤ c.toNat && c ≠ '\x7f')

/-- A line feed, which may follow a carriage return. -/
def readLineEnd? : List Char → Option (List Char)
  | '\x0a' :: rest => some rest
  | '\x0d' :: '\x0a' :: rest => some rest
  | _ => none

/-- Comes after a comment if there is one. -/
def skipComment : List Char → List Char
  | '#' :: rest => rest.dropWhile isTextChar
  | cs => cs

end Toml
end CpuUsage
