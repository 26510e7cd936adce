/-! IEEE 754 doubles as 64-bit patterns. A finite value is a whole number of units of 2^-1074; comparison is exact on units. -/
namespace CpuUsage

structure Binary64 where
  bits : UInt64
  deriving DecidableEq

namespace Binary64

def negative (x : Binary64) : Bool :=
  decide (Nat.pow 2 63 ≤ x.bits.toNat)

def exponentField (x : Binary64) : Nat :=
  x.bits.toNat / Nat.pow 2 52 % Nat.pow 2 11

def fractionField (x : Binary64) : Nat :=
  x.bits.toNat % Nat.pow 2 52

def isFinite (x : Binary64) : Bool :=
  decide (x.exponentField < 2047)

def isNaN (x : Binary64) : Bool :=
  decide (x.exponentField = 2047) && decide (x.fractionField ≠ 0)

/-- The magnitude in units of 2^-1074. An infinity counts 2^2098 units, more than any finite value. -/
def units (x : Binary64) : Nat :=
  if x.exponentField = 0 then x.fractionField
  else (Nat.pow 2 52 + x.fractionField) * Nat.pow 2 (x.exponentField - 1)

def signedUnits (x : Binary64) : Int :=
  if x.negative then -(x.units : Int) else (x.units : Int)

/-- NaN is unordered: it is neither below, above nor equal to anything. -/
instance : LT Binary64 where
  lt x y := x.isNaN = false ∧ y.isNaN = false ∧ x.signedUnits < y.signedUnits

instance : LE Binary64 where
  le x y := x.isNaN = false ∧ y.isNaN = false ∧ x.signedUnits ≤ y.signedUnits

instance (x y : Binary64) : Decidable (x < y) :=
  inferInstanceAs (Decidable (x.isNaN = false ∧ y.isNaN = false ∧ x.signedUnits < y.signedUnits))

instance (x y : Binary64) : Decidable (x ≤ y) :=
  inferInstanceAs (Decidable (x.isNaN = false ∧ y.isNaN = false ∧ x.signedUnits ≤ y.signedUnits))

def infiniteMagnitude : Nat :=
  2047 * Nat.pow 2 52

/-- Puts a sign in front of the 63 bits of a magnitude. -/
def ofMagnitude (negative : Bool) (magnitude : Nat) : Binary64 :=
  ⟨UInt64.ofNat (if negative then Nat.pow 2 63 + magnitude else magnitude)⟩

def zero : Binary64 :=
  ⟨0⟩

def one : Binary64 :=
  ⟨0x3ff0000000000000⟩

def nan : Binary64 :=
  ⟨0x7ff8000000000000⟩

def infinity (negative : Bool) : Binary64 :=
  ofMagnitude negative infiniteMagnitude

def negate (x : Binary64) : Binary64 :=
  ⟨x.bits ^^^ 0x8000000000000000⟩

instance : Inhabited Binary64 :=
  ⟨zero⟩

end Binary64
end CpuUsage
