import CpuUsage.Json.Basic

/-! The text that a string literal stands for, and the literal that is written for a text. -/
namespace CpuUsage

def hexValue? (c : Char) : Option Nat :=
  if '0' ≤ c ∧ c ≤ '9' then some (c.toNat - 48)
  else if 'a' ≤ c ∧ c ≤ 'f' then some (c.toNat - 87)
  else if 'A' ≤ c ∧ c ≤ 'F' then some (c.toNat - 55)
  else none

def isHexDigit (c : Char) : Bool :=
  (hexValue? c).isSome

def hexDigitsValue (cs : List Char) : Nat :=
  cs.foldl (fun n c => n * 16 + (hexValue? c).getD 0) 0

namespace Piece

def shortMeaning (mark : Char) : Char :=
  match mark with
  | 'b' => '\x08'
  | 't' => '\x09'
  | 'n' => '\x0a'
  | 'f' => '\x0c'
  | 'r' => '\x0d'
  | c => c

def isHighSurrogate (n : Nat) : Bool :=
  0xD800 ≤ n && n < 0xDC00

def isLowSurrogate (n : Nat) : Bool :=
  0xDC00 ≤ n && n < 0xE000

/-- Reads the pieces one after the other. A high surrogate must be followed by an escaped low one, and a low one
by itself stands for nothing. -/
def meaning? : List Piece → Option (List Char)
  | [] => some []
  | .plain c :: rest => (meaning? rest).map (c :: ·)
  | .short m :: rest => (meaning? rest).map (shortMeaning m :: ·)
  | .unit high :: .unit low :: rest =>
    let h := hexDigitsValue high
    let l := hexDigitsValue low
    if isHighSurrogate h then
      if isLowSurrogate l then
        (meaning? rest).map (Char.ofNat (0x10000 + (h - 0xD800) * 0x400 + (l - 0xDC00)) :: ·)
      else none
    else if isLowSurrogate h then none
    else (meaning? (.unit low :: rest)).map (Char.ofNat h :: ·)
  | .unit d :: rest =>
    let n := hexDigitsValue d
    if isHighSurrogate n || isLowSurrogate n then none
    else (meaning? rest).map (Char.ofNat n :: ·)

def lowerHexDigit (n : Nat) : Char :=
  if n < 10 then Char.ofNat (48 + n) else Char.ofNat (87 + n)

/-- Quotes, backslashes and control characters are escaped, all else stands for itself. -/
def ofChar (c : Char) : Piece :=
  match c with
  | '\x22' => .short '\x22'
  | '\x5c' => .short '\x5c'
  | '\x08' => .short 'b'
  | '\x09' => .short 't'
  | '\x0a' => .short 'n'
  | '\x0c' => .short 'f'
  | '\x0d' => .short 'r'
  | c =>
    if c.toNat < 0x20 then .unit ['0', '0', lowerHexDigit (c.toNat / 16), lowerHexDigit (c.toNat % 16)]
    else .plain c

end Piece

namespace Json

def ofString (s : String) : Json :=
  .string (s.toList.map Piece.ofChar)

end Json
end CpuUsage
