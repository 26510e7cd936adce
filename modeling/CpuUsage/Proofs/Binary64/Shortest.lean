import CpuUsage.Binary64.Shortest
import CpuUsage.Proofs.Binary64.Rounding

/-! The shortest decimal of a finite double reads back as that double, and how great it can therefore be. -/
namespace CpuUsage

namespace Decimal

/-- The decimal in units of 10^-1074. -/
def scaled (d : Decimal) : Nat :=
  d.coefficient * 10 ^ (d.exponent + 1074).toNat

theorem stripZeros_spec (fuel : Nat) {d : Decimal} (lowest : -1074 ≤ d.exponent) :
    -1074 ≤ (d.stripZeros fuel).exponent ∧ (d.stripZeros fuel).scaled = d.scaled := by
  induction fuel generalizing d with
  | zero => exact ⟨lowest, rfl⟩
  | succ fuel ih =>
    rw [stripZeros]
    split
    · next trailing =>
      obtain ⟨bound, same⟩ := ih (d := ⟨d.coefficient / 10, d.exponent + 1⟩) (by simp only; omega)
      refine ⟨bound, same.trans ?_⟩
      have next : (d.exponent + 1 + 1074).toNat = (d.exponent + 1074).toNat + 1 := by omega
      have tens : d.coefficient / 10 * 10 = d.coefficient := by omega
      calc d.coefficient / 10 * 10 ^ (d.exponent + 1 + 1074).toNat
        _ = d.coefficient / 10 * 10 * 10 ^ (d.exponent + 1074).toNat := by rw [next]; ring
        _ = d.coefficient * 10 ^ (d.exponent + 1074).toNat := by rw [tens]
    · exact ⟨lowest, rfl⟩

theorem coefficient_stripZeros {fuel : Nat} {d : Decimal} (positive : d.coefficient ≠ 0) :
    (d.stripZeros fuel).coefficient ≠ 0 := by
  induction fuel generalizing d with
  | zero => exact positive
  | succ fuel ih =>
    rw [stripZeros]
    split
    · next trailing =>
      apply ih
      simp only
      omega
    · exact positive

end Decimal

namespace Binary64

theorem roundUnits_of_nearestOnGrid {x : Binary64} {scaled grid c : Nat}
    (found : x.nearestOnGrid scaled grid = some c) : roundUnits x.negative (c * grid) (Nat.pow 5 1074) = x := by
  unfold nearestOnGrid at found
  simp only at found
  split at found
  · cases found
    assumption
  · split at found
    · cases found
      assumption
    · split at found
      · cases found
        assumption
      · contradiction

theorem units_roundUnits_zero (negative : Bool) {den : Nat} (positive : 0 < den) :
    (roundUnits negative 0 den).units = 0 := by
  have nearest : roundHalfEven 0 (den * Nat.pow 2 0) = 0 := by
    simp [roundHalfEven, Nat.ne_of_lt positive]
  have zero : roundUnits negative 0 den = ofMagnitude negative 0 := by
    simp only [roundUnits, Nat.zero_div, Nat.log2_zero, Nat.zero_sub, nearest]
    rfl
  rw [zero]
  cases negative <;> decide

/-- No grid offers a zero for a value that is none. -/
theorem nearestOnGrid_ne_zero {x : Binary64} (nonzero : x.units ≠ 0) {scaled grid c : Nat}
    (found : x.nearestOnGrid scaled grid = some c) : c ≠ 0 := by
  have power (n : Nat) : 0 < Nat.pow 5 n := Nat.pow_pos (by decide)
  have readsBack := roundUnits_of_nearestOnGrid found
  rintro rfl
  rw [Nat.zero_mul] at readsBack
  apply nonzero
  rw [← readsBack]
  apply units_roundUnits_zero
  apply power

theorem coefficient_shortest_ne_zero {x : Binary64} (nonzero : x.units ≠ 0) : x.shortest.coefficient ≠ 0 := by
  have power (n : Nat) : Nat.pow 5 n ≠ 0 := Nat.pos_iff_ne_zero.mp (Nat.pow_pos (by decide))
  simp only [shortest]
  split
  · next d found =>
    apply Decimal.coefficient_stripZeros
    obtain ⟨n, _, found⟩ := List.exists_of_findSome?_eq_some found
    obtain ⟨c, near, rfl⟩ := Option.map_eq_some_iff.mp found
    exact nearestOnGrid_ne_zero nonzero near
  · apply Decimal.coefficient_stripZeros
    intro zero
    rcases Nat.mul_eq_zero.mp zero with none | none
    · exact nonzero none
    · exact power _ none

theorem roundUnits_exact (x : Binary64) (finite : x.isFinite = true) {den : Nat} (positive : 0 < den) :
    roundUnits x.negative (x.units * den) den = x := by
  obtain ⟨spare, significand, narrow, full, magnitude, units⟩ := x.exists_units
  have bounded := x.isFinite_iff.mp finite
  rw [roundUnits_eq, units, roundedMagnitude_exact positive narrow full, ← magnitude,
    Nat.min_eq_left (Nat.le_of_lt bounded), ofMagnitude_magnitude]

/-- The shortest decimal reads back. -/
theorem shortest_spec (x : Binary64) (finite : x.isFinite = true) :
    -1074 ≤ x.shortest.exponent ∧ roundUnits x.negative x.shortest.scaled (Nat.pow 5 1074) = x := by
  have power (n : Nat) : 0 < Nat.pow 5 n := Nat.pow_pos (by decide)
  simp only [shortest]
  split
  · next d found =>
    obtain ⟨n, _, found⟩ := List.exists_of_findSome?_eq_some found
    obtain ⟨c, near, rfl⟩ := Option.map_eq_some_iff.mp found
    generalize (Nat.toDigits 10 (x.units * Nat.pow 5 1074)).length - (n + 1) = dropped at near ⊢
    obtain ⟨lowest, same⟩ := Decimal.stripZeros_spec
      (Nat.toDigits 10 (x.units * Nat.pow 5 1074)).length (d := ⟨c, (dropped : Int) - 1074⟩) (by simp only; omega)
    have exponent : ((dropped : Int) - 1074 + 1074).toNat = dropped := by omega
    refine ⟨lowest, ?_⟩
    rw [same, Decimal.scaled, exponent]
    exact roundUnits_of_nearestOnGrid near
  · obtain ⟨lowest, same⟩ := Decimal.stripZeros_spec
      (Nat.toDigits 10 (x.units * Nat.pow 5 1074)).length (d := ⟨x.units * Nat.pow 5 1074, -1074⟩) (Int.le_refl _)
    refine ⟨lowest, ?_⟩
    rw [same, Decimal.scaled]
    simp only [Int.reduceAdd, Int.reduceNeg, Int.reduceToNat, Nat.pow_zero, Nat.mul_one]
    apply roundUnits_exact x finite
    apply power

/-- A number, in units of 10^-1074, is two and a half units of the last bit short of the power of two beyond the finite
doubles: far enough that rounding twice on the way does not reach it. -/
def IsBounded (scaled : Nat) : Prop :=
  2 * scaled ≤ (2 ^ 54 - 5) * (Nat.pow 5 1074 * topUnit)

theorem IsBounded.mono {a b : Nat} (bounded : IsBounded b) (le : a ≤ b) : IsBounded a :=
  Nat.le_trans (Nat.mul_le_mul_left 2 le) bounded

/-- Below the two greatest magnitudes, the shortest decimal is bounded. -/
theorem isBounded_shortest {x : Binary64} (below : x.magnitude < infiniteMagnitude - 2) :
    IsBounded x.shortest.scaled := by
  have readsBack := (x.shortest_spec (x.isFinite_iff.mpr (by omega))).2
  apply two_mul_le_of_roundUnits
  · apply Nat.pow_pos
    decide
  · exact lt_of_eq_of_lt (congrArg magnitude readsBack) below

end Binary64
end CpuUsage
