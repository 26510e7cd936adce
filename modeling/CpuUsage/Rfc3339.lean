import CpuUsage.Calendar
import CpuUsage.Instant
import CpuUsage.Text.Blank
import CpuUsage.Text.Number

/-! Times as RFC 3339 texts. Writing uses UTC, as many of 0, 3, 6 or 9 fraction digits as the nanoseconds need, and
a sign on years outside 0 to 9999. Reading also takes blanks between the parts of a date or time, one-digit fields,
a blank in place of the letter T, and any offset with minutes. -/
namespace CpuUsage

/-- At least `width` digits. -/
def padded (width n : Nat) : List Char :=
  let digits := Nat.toDigits 10 n
  List.replicate (width - digits.length) '0' ++ digits

/-- Four digits, or a sign and as many as needed. -/
def yearText (year : Int) : List Char :=
  if 0 ≤ year ∧ year ≤ 9999 then padded 4 year.toNat
  else (if year < 0 then '-' else '+') :: padded 4 year.natAbs

def Date.text (d : Date) : List Char :=
  yearText d.year ++ '-' :: padded 2 d.month ++ '-' :: padded 2 d.day

namespace Instant

def secondsPerDay : Nat :=
  86400

def date (t : Instant) : Date :=
  .ofDays (t.seconds / secondsPerDay)

/-- Hour, minute and second; the second is 60 in a leap second. -/
def clockText (t : Instant) : List Char :=
  let s := (t.seconds % secondsPerDay).toNat
  let second := s % 60 + t.nanos / nanosPerSecond
  padded 2 (s / 3600) ++ ':' :: padded 2 (s / 60 % 60) ++ ':' :: padded 2 second

def fractionText (t : Instant) : List Char :=
  let n := t.nanos % nanosPerSecond
  if n = 0 then []
  else if n % 1000000 = 0 then '.' :: padded 3 (n / 1000000)
  else if n % 1000 = 0 then '.' :: padded 6 (n / 1000)
  else '.' :: padded 9 n

def rfc3339 (t : Instant) : String :=
  String.ofList (t.date.text ++ 'T' :: t.clockText ++ t.fractionText ++ ['Z'])

/-- Date and time of day with a blank between them, whole seconds only. -/
def plainText (t : Instant) : String :=
  String.ofList (t.date.text ++ ' ' :: t.clockText)

/-- A field of one or more digits, `width` at most, after blanks. -/
def readField? (width : Nat) (cs : List Char) : Option (Nat × List Char) :=
  let cs := dropBlanks cs
  let digits := (cs.takeWhile isDigit).take width
  if digits = [] then none else some (digitsValue 0 digits, cs.drop digits.length)

/-- Four digits at most, or a sign and any number of them. -/
def readYear? (cs : List Char) : Option (Int × List Char) :=
  match dropBlanks cs with
  | '-' :: rest => do
    let (n, rest) ← readSignedDigits rest
    return (-(n : Int), rest)
  | '+' :: rest => do
    let (n, rest) ← readSignedDigits rest
    return ((n : Int), rest)
  | cs => (readField? 4 cs).map fun (n, rest) => ((n : Int), rest)
where
  readSignedDigits (cs : List Char) : Option (Nat × List Char) :=
    let digits := cs.takeWhile isDigit
    if digits = [] then none else some (digitsValue 0 digits, cs.dropWhile isDigit)

/-- Exactly this character, after blanks. -/
def readMark? (mark : Char) (cs : List Char) : Option (List Char) :=
  match dropBlanks cs with
  | c :: rest => if c = mark then some rest else none
  | [] => none

/-- Nanoseconds after a point; digits beyond the ninth count for nothing. -/
def readNanos? : List Char → Option (Nat × List Char)
  | '.' :: rest =>
    let digits := rest.takeWhile isDigit
    let kept := digits.take 9
    if digits = [] then none
    else some (digitsValue 0 kept * Nat.pow 10 (9 - kept.length), rest.dropWhile isDigit)
  | cs => some (0, cs)

/-- An offset in seconds: the letters UTC, the letter Z, or a sign, two digits for the hours, any colons and
blanks, and two digits for the minutes. -/
def readOffset? (cs : List Char) : Option (Int × List Char) :=
  match cs with
  | sign :: rest =>
    if (cs.take 3).map asciiLower = ['u', 't', 'c'] then some (0, cs.drop 3)
    else if asciiLower sign = 'z' then some (0, rest)
    else if sign = '+' then (readAmount? rest).map fun (n, rest) => ((n : Int), rest)
    else if sign = '-' ∨ sign = '\u2212' then (readAmount? rest).map fun (n, rest) => (-(n : Int), rest)
    else none
  | [] => none
where
  readAmount? : List Char → Option (Nat × List Char)
    | h :: h' :: rest =>
      if isDigit h && isDigit h' then
        match rest.dropWhile fun c => c = ':' || isBlank c with
        | m :: m' :: rest =>
          if isDigit m && isDigit m' && m < '6' then
            some (digitsValue 0 [h, h'] * 3600 + digitsValue 0 [m, m'] * 60, rest)
          else none
        | _ => none
      else none
    | _ => none

/-- A date, one of the letters T and t or a blank, a time of day and an offset, then nothing but blanks. Both the
local time and the time in UTC must be within the calendar. -/
def readRfc3339? (text : String) : Option Instant := do
  let (year, cs) ← readYear? text.toList
  let cs ← readMark? '-' cs
  let (month, cs) ← readField? 2 cs
  let cs ← readMark? '-' cs
  let (day, cs) ← readField? 2 cs
  let cs ← match cs with
    | c :: rest => if c = 'T' ∨ c = 't' ∨ c = ' ' then some rest else none
    | [] => none
  let (hour, cs) ← readField? 2 cs
  let cs ← readMark? ':' cs
  let (minute, cs) ← readField? 2 cs
  let cs ← readMark? ':' cs
  let (second, cs) ← readField? 2 cs
  let (nanos, cs) ← readNanos? cs
  let (offset, cs) ← readOffset? (dropBlanks cs)
  if dropBlanks cs ≠ [] then none
  else if !(Date.mk year month day).isValid || 23 < hour || 59 < minute || 60 < second then none
  else if (secondsPerDay : Int) ≤ offset ∨ offset ≤ -(secondsPerDay : Int) then none
  else
    let leap := second = 60
    let clock : Int := hour * 3600 + minute * 60 + (if leap then 59 else second)
    let nanos := if leap then nanos + nanosPerSecond else nanos
    let wall ← ofParts? ((Date.mk year month day).toDays * secondsPerDay + clock) nanos
    ofParts? (wall.seconds - offset) nanos

end Instant
end CpuUsage
