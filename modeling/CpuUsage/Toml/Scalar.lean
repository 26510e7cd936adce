import CpuUsage.Json.Text
import CpuUsage.Rfc3339
import CpuUsage.Text.Split
import CpuUsage.Toml.Basic

/-! Values that are written as one word: truth values, whole numbers within 64 bits, doubles, dates and times. -/
namespace CpuUsage.Toml

/-- Digits of a base, with single underscores between them allowed. -/
def readGrouped? (isMember : Char → Bool) (cs : List Char) : Option (List Char) :=
  let groups := splitParts (· = '_') cs
  if groups.all fun g => g ≠ [] && g.all isMember then some groups.flatten else none

def readSign : List Char → Bool × List Char
  | '-' :: rest => (true, rest)
  | '+' :: rest => (false, rest)
  | cs => (false, cs)

/-- Decimal digits: a zero alone, or a run that does not start with one. -/
def readWhole? (cs : List Char) : Option (List Char) :=
  if 1 < cs.length ∧ cs.head? = some '0' then none else readGrouped? isDigit cs

def digitOfBase (base : Nat) (c : Char) : Bool :=
  match hexValue? c with
  | some d => d < base
  | none => false

def valueInBase (base : Nat) (cs : List Char) : Nat :=
  cs.foldl (fun n c => n * base + (hexValue? c).getD 0) 0

def readBased? (base : Nat) (cs : List Char) : Option Int :=
  (readGrouped? (digitOfBase base) cs).map fun digits => valueInBase base digits

/-- Decimal with a sign, or hexadecimal, octal or binary without one. -/
def readInteger? (cs : List Char) : Option Int :=
  let value := match cs with
    | '0' :: 'x' :: rest => readBased? 16 rest
    | '0' :: 'o' :: rest => readBased? 8 rest
    | '0' :: 'b' :: rest => readBased? 2 rest
    | cs =>
      let (negative, cs) := readSign cs
      (readWhole? cs).map fun digits =>
        let n : Int := digitsValue 0 digits
        if negative then -n else n
  value.filter fitsInt64

/-- Whole digits, then a fraction or an exponent or both. -/
def readDecimal? (negative : Bool) (cs : List Char) : Option Binary64 := do
  let isMark (c : Char) : Bool := c = 'e' || c = 'E'
  let mantissa := cs.takeWhile (!isMark ·)
  let power := cs.dropWhile (!isMark ·)
  let (whole, fraction) := splitFirst '.' mantissa
  let whole ← readWhole? whole
  let fraction ← match fraction with
    | some digits => (readGrouped? isDigit digits).map some
    | none => some none
  let exponent ← match power with
    | _ :: rest =>
      let (down, rest) := readSign rest
      (readGrouped? isDigit rest).map fun digits =>
        let e : Int := digitsValue 0 digits
        some (if down then -e else e)
    | [] => some none
  if fraction = none ∧ exponent = none then none
  else
    let digits := fraction.getD []
    return .ofDecimal negative (digitsValue 0 (whole ++ digits)) (exponent.getD 0 - digits.length)

/-- A double; one too large is refused, unless it is negative. -/
def readFloat? (cs : List Char) : Option Binary64 :=
  let (negative, rest) := readSign cs
  match rest with
  | ['i', 'n', 'f'] => some (.infinity negative)
  | ['n', 'a', 'n'] => some .nan
  | _ => (readDecimal? negative rest).filter (· ≠ .infinity false)

def readFixed? (width : Nat) (cs : List Char) : Option (Nat × List Char) :=
  let digits := cs.take width
  if digits.length = width ∧ digits.all isDigit then some (digitsValue 0 digits, cs.drop width) else none

def readMark? (mark : Char) : List Char → Option (List Char)
  | c :: rest => if c = mark then some rest else none
  | [] => none

def readDate? (cs : List Char) : Option (Date × List Char) := do
  let (year, cs) ← readFixed? 4 cs
  let cs ← readMark? '-' cs
  let (month, cs) ← readFixed? 2 cs
  let cs ← readMark? '-' cs
  let (day, cs) ← readFixed? 2 cs
  let date : Date := ⟨year, month, day⟩
  if date.isValid then return (date, cs) else none

/-- Nine digits of a fraction count; zeros at its end are not written. -/
def fractionText (digits : List Char) : List Char :=
  let kept := ((digits.take 9).reverse.dropWhile (· = '0')).reverse
  if kept = [] then [] else '.' :: kept

/-- A time of day, as it is written. -/
def readClock? (cs : List Char) : Option (List Char × List Char) := do
  let (hour, cs) ← readFixed? 2 cs
  let cs ← readMark? ':' cs
  let (minute, cs) ← readFixed? 2 cs
  let cs ← readMark? ':' cs
  let (second, cs) ← readFixed? 2 cs
  if 23 < hour ∨ 59 < minute ∨ 60 < second then none
  else
    let text := padded 2 hour ++ ':' :: padded 2 minute ++ ':' :: padded 2 second
    match cs with
    | '.' :: rest =>
      let digits := rest.takeWhile isDigit
      if digits = [] then none else return (text ++ fractionText digits, rest.dropWhile isDigit)
    | _ => return (text, cs)

/-- An offset from UTC, as it is written; it may be left out. -/
def readOffset? : List Char → Option (List Char)
  | [] => some []
  | ['Z'] | ['z'] => some ['Z']
  | sign :: cs => do
    let (hour, cs) ← readFixed? 2 cs
    let cs ← readMark? ':' cs
    let (minute, cs) ← readFixed? 2 cs
    if (sign ≠ '+' ∧ sign ≠ '-') ∨ 23 < hour ∨ 59 < minute ∨ cs ≠ [] then none
    else return (if hour = 0 ∧ minute = 0 then '+' else sign) :: padded 2 hour ++ ':' :: padded 2 minute

/-- A date, a time of day, or both with a letter T between them and perhaps an offset behind. -/
def readTime? (cs : List Char) : Option (List Char) :=
  match readDate? cs with
  | some (date, []) => some date.text
  | some (date, c :: rest) =>
    if c = 'T' ∨ c = 't' then do
      let (clock, rest) ← readClock? rest
      let offset ← readOffset? rest
      return date.text ++ 'T' :: clock ++ offset
    else none
  | none => match readClock? cs with
    | some (clock, []) => some clock
    | _ => none

def readWord? (cs : List Char) : Option Toml :=
  if cs = ['t', 'r', 'u', 'e'] then some (.boolean true)
  else if cs = ['f', 'a', 'l', 's', 'e'] then some (.boolean false)
  else match readTime? cs, readFloat? cs, readInteger? cs with
    | some text, _, _ => some (.time (String.ofList text))
    | none, some x, _ => some (.float x)
    | none, none, some n => some (.integer n)
    | none, none, none => none

def isWordChar (c : Char) : Bool :=
  isDigit c || ('a' ≤ c && c ≤ 'z') || ('A' ≤ c && c ≤ 'Z') || c = '+' || c = '-' || c = '_' || c = '.' || c = ':'

/-- Splits a word off. A blank may stand for the letter between a date and a time of day. -/
def splitWord (cs : List Char) : List Char × List Char :=
  let word := cs.takeWhile isWordChar
  match readDate? word, cs.dropWhile isWordChar with
  | some (_, []), ' ' :: c :: rest =>
    if isDigit c then (word ++ 'T' :: (c :: rest).takeWhile isWordChar, (c :: rest).dropWhile isWordChar)
    else (word, ' ' :: c :: rest)
  | _, rest => (word, rest)

end CpuUsage.Toml
