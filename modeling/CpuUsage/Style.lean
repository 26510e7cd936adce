/-! Colours on a terminal. -/
namespace CpuUsage

inductive Style where
  | red
  | yellow
  | cyan
  | boldRed
  | boldYellow
  | boldBlue
  | boldCyan
  deriving DecidableEq

namespace Style

def start : Style → String
  | .red => "\x1b[31m"
  | .yellow => "\x1b[33m"
  | .cyan => "\x1b[36m"
  | .boldRed => "\x1b[1;31m"
  | .boldYellow => "\x1b[1;33m"
  | .boldBlue => "\x1b[1;34m"
  | .boldCyan => "\x1b[1;36m"

def stop : String :=
  "\x1b[0m"

/-- Puts `start` behind every place where a text turns its style off. -/
def restart (start : List Char) : List Char → List Char
  | '\x1b' :: '[' :: '0' :: 'm' :: rest => stop.toList ++ start ++ restart start rest
  | c :: rest => c :: restart start rest
  | [] => []

/-- The text in a style, which is turned on again wherever the text turns it off. Without colours the text stays as
it is. -/
def paint (coloured : Bool) (s : Style) (text : String) : String :=
  if coloured then s.start ++ String.ofList (restart s.start.toList text.toList) ++ stop else text

/-- Whether colours are wanted, by the variables that force them, forbid them and allow them on a terminal. -/
def isWanted (force forbid allow : Option String) (terminal : Bool) : Bool :=
  if force.any (· ≠ "0") then true
  else if forbid.isSome then false
  else terminal && allow.all (· ≠ "0")

end Style
end CpuUsage
