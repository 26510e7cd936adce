import CpuUsage.Binary64.Shortest

/-! Numbers as plain text: decimal integers of bounded width, floating point with every digit counted, and the
texts that whole doubles are printed as. -/
namespace CpuUsage

def isDigit (c : Char) : Bool :=
  '0' ≤ c && c ≤ '9'

def digitValue (c : Char) : Nat :=
  c.toNat - 48

/-- The number that a run of digits spells, reading on from `start`. -/
def digitsValue (start : Nat) (cs : List Char) : Nat :=
  cs.foldl (fun n c => n * 10 + digitValue c) start

/-- Digits only, and at least one. -/
def readNat? (cs : List Char) : Option Nat :=
  if cs ≠ [] ∧ cs.all isDigit then some (digitsValue 0 cs) else none

/-- Digits after at most one plus sign, below `bound`. -/
def readUnsigned? (bound : Nat) (cs : List Char) : Option Nat :=
  let magnitude := match cs with
    | '+' :: rest => readNat? rest
    | _ => readNat? cs
  magnitude.filter (· < bound)

def uint32Bound : Nat :=
  4294967296

def uint64Bound : Nat :=
  18446744073709551616

/-- Whether 64 bits of two's complement hold a number. -/
def fitsInt64 (n : Int) : Bool :=
  -9223372036854775808 ≤ n && n ≤ 9223372036854775807

/-- Digits after at most one sign, within 64 bits of two's complement. -/
def readInt64? (cs : List Char) : Option Int :=
  let value := match cs with
    | '+' :: rest => (readNat? rest).map Int.ofNat
    | '-' :: rest => (readNat? rest).map fun n => -(n : Int)
    | _ => (readNat? cs).map Int.ofNat
  value.filter fitsInt64

def asciiLower (c : Char) : Char :=
  if 'A' ≤ c ∧ c ≤ 'Z' then Char.ofNat (c.toNat + 32) else c

/-- An exponent: nothing, or a mark, at most one sign, and digits to the end. -/
def readExponent? : List Char → Option Int
  | [] => some 0
  | mark :: rest =>
    if asciiLower mark = 'e' then
      match rest with
      | '-' :: digits => (readNat? digits).map fun n => -(n : Int)
      | '+' :: digits => (readNat? digits).map Int.ofNat
      | digits => (readNat? digits).map Int.ofNat
    else none

namespace Binary64

/-- An unsigned decimal: digits with at most one point among or beside them, then at most one exponent. -/
def readDecimal? (negative : Bool) (cs : List Char) : Option Binary64 :=
  let whole := cs.takeWhile isDigit
  let (fraction, rest) := match cs.dropWhile isDigit with
    | '.' :: rest => (rest.takeWhile isDigit, rest.dropWhile isDigit)
    | rest => ([], rest)
  if whole = [] ∧ fraction = [] then none
  else (readExponent? rest).map fun e =>
    ofDecimal negative (digitsValue 0 (whole ++ fraction)) (e - fraction.length)

def readMagnitude? (negative : Bool) (cs : List Char) : Option Binary64 :=
  let word := cs.map asciiLower
  if word = ['n', 'a', 'n'] then some nan
  else if word = ['i', 'n', 'f'] ∨ word = ['i', 'n', 'f', 'i', 'n', 'i', 't', 'y'] then some (infinity negative)
  else readDecimal? negative cs

/-- A decimal, an infinity or NaN in any case, after at most one sign; rounded correctly. -/
def read? : List Char → Option Binary64
  | '-' :: rest => readMagnitude? true rest
  | '+' :: rest => readMagnitude? false rest
  | cs => readMagnitude? false cs

def signText (x : Binary64) : List Char :=
  if x.negative then ['-'] else []

/-- Two decimal places, ties to even on the exact value; a negative zero keeps its sign. -/
def hundredths (x : Binary64) : List Char :=
  if x.isNaN then ['N', 'a', 'N']
  else if !x.isFinite then x.signText ++ ['i', 'n', 'f']
  else
    let h := roundHalfEven (x.units * 100) (Nat.pow 2 1074)
    x.signText ++ Nat.toDigits 10 (h / 100) ++ ['.'] ++ Nat.toDigits 10 (h % 100 / 10) ++ Nat.toDigits 10 (h % 10)

/-- Shortest digits written out in full, without an exponent and without a point where none is needed. -/
def positional (x : Binary64) : List Char :=
  if x.isNaN then ['N', 'a', 'N']
  else if !x.isFinite then x.signText ++ ['i', 'n', 'f']
  else
    let d := x.shortest
    let point := d.point
    x.signText ++
      if 0 ≤ d.exponent then d.digits ++ List.replicate d.exponent.toNat '0'
      else if 0 < point then d.digits.take point.toNat ++ ['.'] ++ d.digits.drop point.toNat
      else ['0', '.'] ++ List.replicate (-point).toNat '0' ++ d.digits

end Binary64
end CpuUsage
