import CpuUsage.Json.Basic

/-! The number that a numeral stands for, and the numeral that is written for a number. Whole numerals within 64
bits are exact. Any other numeral is read by scaling a 64-bit significand by powers of ten, one rounding per step,
so that its last bit may differ from the nearest double. -/
namespace CpuUsage

/-- A number as read: `negative` holds values below zero, all else that is whole is `natural`. -/
inductive Json.Number where
  | natural (n : Nat)
  | negative (n : Int)
  | float (x : Binary64)
  deriving DecidableEq

namespace Numeral

/-- Takes digits into the significand until one would overflow 64 bits; gives the digits that are left. -/
def accumulate : Nat → List Char → Nat × List Char
  | n, [] => (n, [])
  | n, c :: rest =>
    let next := n * 10 + digitValue c
    if next < uint64Bound then accumulate next rest else (n, c :: rest)

/-- Multiplies by `10^exponent` where that power is a double, and divides by `10^308` until it is. A result
beyond the finite doubles is refused. -/
def scaleByTen : Nat → Binary64 → Int → Option Binary64
  | 0, _, _ => none
  | fuel + 1, f, exponent =>
    if exponent.natAbs ≤ 308 then
      let power := Binary64.ofDecimal false 1 exponent.natAbs
      if 0 ≤ exponent then
        let scaled := f.mul power
        if scaled.isFinite then some scaled else none
      else some (f.div power)
    else if f.units = 0 then some f
    else if 0 ≤ exponent then none
    else scaleByTen fuel (f.div (Binary64.ofDecimal false 1 308)) (exponent + 308)

def withSign (negative : Bool) (x : Binary64) : Binary64 :=
  if negative then x.negate else x

/-- Exponents are held in 32 bits. One that does not fit leaves zero as it is, refuses a huge number and turns a
tiny one into zero; a sum that does not fit stays at the limit. -/
def exponentLimit : Int :=
  2147483647

def float? (n : Numeral) (significand : Nat) (start : Int) : Option Binary64 :=
  let scaled := match n.exponent with
    | none => scaleByTen 4 (Binary64.ofNat significand) start
    | some (_, sign, digits) =>
      let e : Int := digitsValue 0 digits
      let down := sign = some '-'
      if exponentLimit < e then
        if significand = 0 ∨ down then some Binary64.zero else none
      else if down then scaleByTen 4 (Binary64.ofNat significand) (max (start - e) (-exponentLimit - 1))
      else scaleByTen 4 (Binary64.ofNat significand) (min (start + e) exponentLimit)
  scaled.map (withSign n.negative)

/-- The number that a numeral stands for, or nothing when it is too large for a double. -/
def value? (n : Numeral) : Option Json.Number :=
  let (significand, surplus) := accumulate 0 n.whole
  match n.fraction, n.exponent, surplus with
  | none, none, [] =>
    if !n.negative then some (.natural significand)
    else if 0 < significand ∧ significand ≤ 9223372036854775808 then some (.negative (-significand))
    else some (.float (Binary64.ofNat significand).negate)
  | none, _, surplus => (n.float? significand surplus.length).map .float
  | some digits, _, surplus =>
    let (significand, ignored) := accumulate significand digits
    (n.float? significand ((surplus.length : Int) - (digits.length - ignored.length))).map .float

def ofNat (n : Nat) : Numeral :=
  ⟨false, Nat.toDigits 10 n, none, none⟩

/-- Shortest digits. A point stands among them for exponents from -5 to 15, with at least one digit on each side;
beyond that, one digit is followed by the point and a signed exponent. -/
def ofBinary64 (x : Binary64) : Numeral :=
  let d := x.shortest
  let digits := d.digits
  let point := d.point
  if x.units = 0 then ⟨x.negative, ['0'], some ['0'], none⟩
  else if 0 ≤ d.exponent ∧ point ≤ 16 then
    ⟨x.negative, digits ++ List.replicate d.exponent.toNat '0', some ['0'], none⟩
  else if 0 < point ∧ point ≤ 16 then
    ⟨x.negative, digits.take point.toNat, some (digits.drop point.toNat), none⟩
  else if -5 < point ∧ point ≤ 0 then
    ⟨x.negative, ['0'], some (List.replicate (-point).toNat '0' ++ digits), none⟩
  else
    let e := point - 1
    let fraction := if digits.length = 1 then none else some (digits.drop 1)
    ⟨x.negative, digits.take 1, fraction, some ('e', some (if e < 0 then '-' else '+'), Nat.toDigits 10 e.natAbs)⟩

end Numeral

namespace Json

def ofNat (n : Nat) : Json :=
  .number (.ofNat n)

/-- NaN and the infinities have no numeral and are written as null. -/
def ofBinary64 (x : Binary64) : Json :=
  if x.isFinite then .number (.ofBinary64 x) else .null

end Json
end CpuUsage
