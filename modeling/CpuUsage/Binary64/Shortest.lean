import CpuUsage.Binary64.Rounding

/-! The shortest decimal that reads back as a given double. A finite double of `u` units is exactly
`u * 5^1074` at the decimal scale 10^-1074, so grids of 1 to 17 digits are searched in whole numbers. -/
namespace CpuUsage

/-- The decimal `coefficient * 10 ^ exponent`. -/
structure Decimal where
  coefficient : Nat
  exponent : Int
  deriving DecidableEq

namespace Decimal

def digits (d : Decimal) : List Char :=
  Nat.toDigits 10 d.coefficient

/-- How many digits stand before the decimal point; negative when zeros follow it. -/
def point (d : Decimal) : Int :=
  d.exponent + d.digits.length

/-- Moves trailing zeros of the coefficient into the exponent, `fuel` of them at most. -/
def stripZeros : Nat → Decimal → Decimal
  | 0, d => d
  | fuel + 1, d =>
    if d.coefficient ≠ 0 ∧ d.coefficient % 10 = 0 then stripZeros fuel ⟨d.coefficient / 10, d.exponent + 1⟩
    else d

end Decimal

namespace Binary64

/-- The neighbour of `scaled` on the grid of multiples of `grid` that rounds to `x`; of two the nearer, in a
tie the even one. -/
def nearestOnGrid (x : Binary64) (scaled grid : Nat) : Option Nat :=
  let below := scaled / grid
  let readsBack c := (roundUnits x.negative (c * grid) (Nat.pow 5 1074)) = x
  let nearer := roundHalfEven scaled grid
  if readsBack nearer then some nearer
  else if readsBack below then some below
  else if readsBack (below + 1) then some (below + 1)
  else none

/-- The shortest decimal magnitude that reads back as `x`. -/
def shortest (x : Binary64) : Decimal :=
  let scaled := x.units * Nat.pow 5 1074
  let size := (Nat.toDigits 10 scaled).length
  let found := (List.range 17).findSome? fun n =>
    let dropped := size - (n + 1)
    (x.nearestOnGrid scaled (Nat.pow 10 dropped)).map fun c => (⟨c, (dropped : Int) - 1074⟩ : Decimal)
  match found with
  | some d => d.stripZeros size
  | none => (⟨scaled, -1074⟩ : Decimal).stripZeros size

end Binary64
end CpuUsage
