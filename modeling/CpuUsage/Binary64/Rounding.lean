import CpuUsage.Binary64.Basic

/-! Exact quotients rounded to the nearest double, ties to even, and the arithmetic built on that one rule. -/
namespace CpuUsage

/-- The nearest whole number to `num / den`, ties to even. -/
def roundHalfEven (num den : Nat) : Nat :=
  let q := num / den
  let r := num % den
  if den < 2 * r ∨ (2 * r = den ∧ q % 2 = 1) then q + 1 else q

namespace Binary64

/-- Rounds `num / den` units of 2^-1074. Dropping `spare` low bits leaves at most 53; a carry out of the
significand moves into the exponent field by itself. -/
def roundUnits (negative : Bool) (num den : Nat) : Binary64 :=
  let spare := (num / den).log2 - 52
  let significand := roundHalfEven num (den * Nat.pow 2 spare)
  ofMagnitude negative (min (spare * Nat.pow 2 52 + significand) infiniteMagnitude)

/-- The double nearest to the real number `num / den`. -/
def ofRatio (negative : Bool) (num den : Nat) : Binary64 :=
  roundUnits negative (num * Nat.pow 2 1074) den

def ofNat (n : Nat) : Binary64 :=
  ofRatio false n 1

/-- The double nearest to `coefficient * 10 ^ exponent`. Beyond 400 digits on either side of the point the
answer is already known, so no huge power is formed. -/
def ofDecimal (negative : Bool) (coefficient : Nat) (exponent : Int) : Binary64 :=
  let point := exponent + (Nat.toDigits 10 coefficient).length
  if coefficient = 0 ∨ point < -400 then ofMagnitude negative 0
  else if 400 < point then infinity negative
  else if 0 ≤ exponent then ofRatio negative (coefficient * Nat.pow 10 exponent.toNat) 1
  else ofRatio negative coefficient (Nat.pow 10 (-exponent).toNat)

def mul (x y : Binary64) : Binary64 :=
  let negative := x.negative != y.negative
  if x.isNaN || y.isNaN then nan
  else if x.isFinite && y.isFinite then roundUnits negative (x.units * y.units) (Nat.pow 2 1074)
  else if x.units = 0 ∨ y.units = 0 then nan
  else infinity negative

def div (x y : Binary64) : Binary64 :=
  let negative := x.negative != y.negative
  if x.isNaN || y.isNaN then nan
  else if x.isFinite then
    if !y.isFinite then ofMagnitude negative 0
    else if y.units = 0 then if x.units = 0 then nan else infinity negative
    else roundUnits negative (x.units * Nat.pow 2 1074) y.units
  else if y.isFinite then infinity negative
  else nan

/-- The greatest whole number not above a finite value. -/
def floor (x : Binary64) : Int :=
  x.signedUnits.fdiv (Nat.pow 2 1074)

/-- What is left of a finite value above its floor, rounded: a tiny negative value leaves 1. -/
def fractionAboveFloor (x : Binary64) : Binary64 :=
  roundUnits false (x.signedUnits.fmod (Nat.pow 2 1074)).toNat 1

/-- The nearest whole number to a finite magnitude, a half going up. -/
def roundHalfUp (x : Binary64) : Nat :=
  (2 * x.units + Nat.pow 2 1074) / Nat.pow 2 1075

end Binary64
end CpuUsage
