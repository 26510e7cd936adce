import CpuUsage.Text.Number

/-! JSON documents as they are written: string and number literals keep their spelling, and objects keep their
members in order, repeated names included. What a literal means is decided where it is read. -/
namespace CpuUsage

inductive Piece where
  | plain (c : Char)
  /-- A backslash and one of the eight short marks. -/
  | short (mark : Char)
  /-- A backslash, `u` and four hexadecimal digits. -/
  | unit (digits : List Char)
  deriving DecidableEq

/-- A number literal: sign, whole digits, digits after the point, and an exponent of mark, sign and digits. -/
structure Numeral where
  negative : Bool
  whole : List Char
  fraction : Option (List Char)
  exponent : Option (Char × Option Char × List Char)
  deriving DecidableEq

inductive Json where
  | null
  | bool (b : Bool)
  | number (n : Numeral)
  | string (s : List Piece)
  | array (items : List Json)
  | object (members : List (List Piece × Json))

end CpuUsage
