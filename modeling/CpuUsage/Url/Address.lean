import CpuUsage.Json.Text
import CpuUsage.Text.Split

/-! Addresses in host position. An IPv4 address may be shortened, and its parts may be octal or hexadecimal; an IPv6
address may leave out a run of zeros and end in an IPv4 address. -/
namespace CpuUsage

namespace Ipv4

/-- Digits of a base, which may be none, as one number. -/
def readBase? (base : Nat) (cs : List Char) : Option Nat :=
  cs.foldlM (fun n c => match hexValue? c with
    | some d => if d < base then some (n * base + d) else none
    | none => none) 0

/-- A part: decimal, octal after a zero, or hexadecimal after a zero and an x. -/
def readPart? : List Char → Option Nat
  | [] => none
  | ['0'] => some 0
  | '0' :: x :: rest => if x = 'x' ∨ x = 'X' then readBase? 16 rest else readBase? 8 (x :: rest)
  | cs => readBase? 10 cs

/-- One dot at the end does not count. -/
def parts (name : List Char) : List (List Char) :=
  let all := splitParts (· = '.') name
  if 1 < all.length ∧ all.getLast? = some [] then all.dropLast else all

/-- Whether a name has to be an address, because its last part is a number. -/
def isClaimed (name : List Char) : Bool :=
  match (parts name).getLast? with
  | some last => (last ≠ [] && last.all isDigit) || (readPart? last).isSome
  | none => false

/-- All parts but the last are bytes; the last fills the bytes that remain. -/
def combine? (numbers : List Nat) : Option Nat :=
  match numbers.getLast? with
  | none => none
  | some last =>
    let bytes := numbers.dropLast
    let room := 4 - bytes.length
    if 3 < bytes.length ∨ bytes.any (255 < ·) ∨ Nat.pow 256 room ≤ last then none
    else some (bytes.foldl (fun n b => n * 256 + b) 0 * Nat.pow 256 room + last)

def read? (name : List Char) : Option Nat :=
  ((parts name).mapM readPart?).bind combine?

def write (address : Nat) : List Char :=
  let byte (i : Nat) := Nat.toDigits 10 (address / Nat.pow 256 i % 256)
  byte 3 ++ '.' :: byte 2 ++ '.' :: byte 1 ++ '.' :: byte 0

/-- Four decimal bytes without leading zeros, as they end an IPv6 address. -/
def readDotted? (cs : List Char) : Option Nat := do
  let numbers ← (splitParts (· = '.') cs).mapM fun part =>
    if part ≠ [] ∧ part.all isDigit ∧ (part.length = 1 ∨ part.head? ≠ some '0') then some (digitsValue 0 part) else none
  if numbers.length = 4 ∧ numbers.all (· < 256) then some (numbers.foldl (fun n b => n * 256 + b) 0) else none

end Ipv4

namespace Ipv6

/-- One to four hexadecimal digits. -/
def readPiece? (cs : List Char) : Option Nat :=
  if cs ≠ [] ∧ cs.length ≤ 4 ∧ cs.all isHexDigit then some (hexDigitsValue cs) else none

/-- Pieces between colons; the last may be an IPv4 address, which counts for two. -/
def readPieces? : List (List Char) → Option (List Nat)
  | [] => some []
  | [last] =>
    if last.contains '.' then (Ipv4.readDotted? last).map fun n => [n / 65536, n % 65536]
    else (readPiece? last).map ([·])
  | part :: rest => do
    let piece ← readPiece? part
    let pieces ← readPieces? rest
    return piece :: pieces

/-- The pieces of one side of the double colon; an empty side has none. -/
def readSide? (cs : List Char) : Option (List Nat) :=
  if cs = [] then some [] else readPieces? (splitParts (· = ':') cs)

/-- What stands before and after the first double colon. -/
def splitAtGap : List Char → Option (List Char × List Char)
  | ':' :: ':' :: rest => some ([], rest)
  | c :: rest => (splitAtGap rest).map fun (before, after) => (c :: before, after)
  | [] => none

def read? (cs : List Char) : Option (List Nat) :=
  match splitAtGap cs with
  | none => (readPieces? (splitParts (· = ':') cs)).filter (·.length = 8)
  | some (before, after) => do
    if before.contains '.' then none
    else
      let before ← readSide? before
      let after ← readSide? after
      if 7 < before.length + after.length then none
      else some (before ++ List.replicate (8 - before.length - after.length) 0 ++ after)

def leadingZeros (pieces : List Nat) : Nat :=
  (pieces.takeWhile (· = 0)).length

/-- Where the first of the longest runs of at least two zeros starts, and its length. -/
def longestGap? (pieces : List Nat) : Option (Nat × Nat) :=
  (List.range pieces.length).foldl (fun best i =>
    let n := leadingZeros (pieces.drop i)
    match best with
    | some (_, m) => if m < n then some (i, n) else best
    | none => if 2 ≤ n then some (i, n) else none) none

def writePieces (pieces : List Nat) : List Char :=
  [':'].intercalate (pieces.map (Nat.toDigits 16))

def write (pieces : List Nat) : List Char :=
  match longestGap? pieces with
  | none => writePieces pieces
  | some (start, length) =>
    writePieces (pieces.take start) ++ [':', ':'] ++ writePieces (pieces.drop (start + length))

end Ipv6
end CpuUsage
