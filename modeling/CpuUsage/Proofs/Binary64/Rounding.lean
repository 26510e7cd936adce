import CpuUsage.Binary64.Rounding
import Mathlib.Tactic.Linarith
import Mathlib.Tactic.Ring

/-! How far rounding goes. A rounded quotient is a significand of at most 53 bits above some dropped ones; it is off by
half a unit of the last bit that is kept. From this follows which quotients are rounded to finite doubles. -/
namespace CpuUsage

section
variable {num den : Nat}

/-- Rounding goes half way to the next whole number at most. -/
theorem roundHalfEven_near (num : Nat) (positive : 0 < den) :
    2 * (roundHalfEven num den * den) ≤ 2 * num + den ∧ 2 * num ≤ 2 * (roundHalfEven num den * den) + den := by
  have divided : den * (num / den) + num % den = num := Nat.div_add_mod num den
  have small : num % den < den := Nat.mod_lt num positive
  simp only [roundHalfEven]
  split
  · next up =>
    have next : (num / den + 1) * den = den * (num / den) + den := by ring
    omega
  · next down =>
    have same : num / den * den = den * (num / den) := Nat.mul_comm _ _
    omega

theorem le_roundHalfEven (positive : 0 < den) {k : Nat} (above : k * den ≤ num) : k ≤ roundHalfEven num den := by
  have whole : k ≤ num / den := (Nat.le_div_iff_mul_le positive).mpr above
  simp only [roundHalfEven]
  split <;> omega

theorem roundHalfEven_le (positive : 0 < den) {k : Nat} (below : num ≤ k * den) : roundHalfEven num den ≤ k := by
  have near := (roundHalfEven_near num positive).1
  by_contra beyond
  have next : (k + 1) * den ≤ roundHalfEven num den * den := Nat.mul_le_mul_right den (by omega)
  rw [Nat.succ_mul] at next
  omega

end

namespace Binary64

/-- The magnitude that `num / den` units are rounded to, with no end to the exponents. -/
def roundedMagnitude (num den : Nat) : Nat :=
  let spare := (num / den).log2 - 52
  spare * 2 ^ 52 + roundHalfEven num (den * 2 ^ spare)

theorem roundUnits_eq (negative : Bool) (num den : Nat) :
    roundUnits negative num den = ofMagnitude negative (min (roundedMagnitude num den) infiniteMagnitude) := rfl

/-- `num / den` is near to `significand`, which has 53 bits unless none were dropped. -/
structure IsRounded (num den spare significand : Nat) : Prop where
  near : 2 * (significand * (den * 2 ^ spare)) ≤ 2 * num + den * 2 ^ spare
  near' : 2 * num ≤ 2 * (significand * (den * 2 ^ spare)) + den * 2 ^ spare
  narrow : significand ≤ 2 ^ 53
  full : 0 < spare → 2 ^ 52 ≤ significand ∧ 2 ^ 52 * (den * 2 ^ spare) ≤ num

theorem exists_isRounded (num : Nat) {den : Nat} (positive : 0 < den) :
    ∃ spare significand, roundedMagnitude num den = spare * 2 ^ 52 + significand ∧
      IsRounded num den spare significand := by
  refine ⟨(num / den).log2 - 52, _, rfl, ?_⟩
  generalize dropped : (num / den).log2 - 52 = spare
  have kept : 0 < den * 2 ^ spare := Nat.mul_pos positive (Nat.two_pow_pos spare)
  have wide : num ≤ 2 ^ 53 * (den * 2 ^ spare) := by
    have quotient : num / den < 2 ^ (53 + spare) :=
      Nat.lt_of_lt_of_le Nat.lt_log2_self (Nat.pow_le_pow_right (by decide) (by omega))
    rw [Nat.div_lt_iff_lt_mul positive, Nat.pow_add] at quotient
    nlinarith
  have full (some : 0 < spare) : 2 ^ 52 * (den * 2 ^ spare) ≤ num := by
    have nonzero : num / den ≠ 0 := by
      intro zero
      rw [zero, Nat.log2_zero] at dropped
      omega
    have quotient : 2 ^ (52 + spare) ≤ num / den := by
      have := Nat.log2_self_le nonzero
      rwa [show (num / den).log2 = 52 + spare by omega] at this
    rw [Nat.le_div_iff_mul_le positive, Nat.pow_add] at quotient
    nlinarith
  exact ⟨(roundHalfEven_near num kept).1, (roundHalfEven_near num kept).2, roundHalfEven_le kept wide,
    fun some => ⟨le_roundHalfEven kept (full some), full some⟩⟩

/-- What the significand holds exactly is rounded to itself. -/
theorem roundedMagnitude_exact {den spare significand : Nat} (positive : 0 < den) (narrow : significand < 2 ^ 53)
    (full : 0 < spare → 2 ^ 52 ≤ significand) :
    roundedMagnitude (significand * 2 ^ spare * den) den = spare * 2 ^ 52 + significand := by
  have dropped : (significand * 2 ^ spare).log2 - 52 = spare := by
    rcases Nat.eq_zero_or_pos spare with rfl | some
    · rcases Nat.eq_zero_or_pos significand with rfl | nonzero
      · decide
      · have := (Nat.log2_lt (by omega)).mpr narrow
        rw [Nat.pow_zero, Nat.mul_one]
        omega
    · have lower := full some
      have bits : (significand * 2 ^ spare).log2 = 52 + spare := by
        rw [Nat.log2_eq_iff (Nat.mul_ne_zero (by omega) (Nat.two_pow_pos spare).ne'), Nat.add_right_comm, Nat.pow_add,
          Nat.pow_add]
        exact ⟨Nat.mul_le_mul_right _ lower, Nat.mul_lt_mul_of_pos_right narrow (Nat.two_pow_pos spare)⟩
      omega
  have kept : 0 < den * 2 ^ spare := Nat.mul_pos positive (Nat.two_pow_pos spare)
  have same : significand * 2 ^ spare * den = significand * (den * 2 ^ spare) := by ring
  have exact : roundHalfEven (significand * 2 ^ spare * den) (den * 2 ^ spare) = significand :=
    Nat.le_antisymm (roundHalfEven_le kept same.le) (le_roundHalfEven kept same.ge)
  simp only [roundedMagnitude, Nat.mul_div_cancel _ positive, dropped, exact]

/-- The 63 bits beside the sign. -/
def magnitude (x : Binary64) : Nat :=
  x.bits.toNat % 2 ^ 63

theorem toNat_bits_ofMagnitude (negative : Bool) {m : Nat} (fits : m < 2 ^ 63) :
    (ofMagnitude negative m).bits.toNat = if negative then 2 ^ 63 + m else m := by
  have held : (if negative then 2 ^ 63 + m else m) < 2 ^ 64 := by
    split <;> omega
  exact UInt64.toNat_ofNat_of_lt held

theorem magnitude_ofMagnitude (negative : Bool) {m : Nat} (fits : m < 2 ^ 63) :
    (ofMagnitude negative m).magnitude = m := by
  rw [magnitude, toNat_bits_ofMagnitude negative fits]
  split <;> omega

theorem ofMagnitude_magnitude (x : Binary64) : ofMagnitude x.negative x.magnitude = x := by
  have bits : (ofMagnitude x.negative x.magnitude).bits.toNat = x.bits.toNat := by
    have wide := x.bits.toNat_lt
    have fits : x.magnitude < 2 ^ 63 := Nat.mod_lt _ (by decide)
    rw [toNat_bits_ofMagnitude _ fits, negative, magnitude]
    simp only [decide_eq_true_eq, Nat.pow_eq]
    split <;> omega
  exact congrArg Binary64.mk (UInt64.toNat_inj.mp bits)

theorem exponentField_eq (x : Binary64) : x.exponentField = x.magnitude / 2 ^ 52 := by
  have wide := x.bits.toNat_lt
  simp only [exponentField, magnitude, Nat.pow_eq]
  omega

theorem fractionField_eq (x : Binary64) : x.fractionField = x.magnitude % 2 ^ 52 := by
  simp only [fractionField, magnitude, Nat.pow_eq]
  omega

theorem isFinite_iff (x : Binary64) : x.isFinite = true ↔ x.magnitude < infiniteMagnitude := by
  simp only [isFinite, exponentField_eq, decide_eq_true_eq, infiniteMagnitude, Nat.pow_eq]
  omega

theorem not_isNaN_of_isFinite {x : Binary64} (finite : x.isFinite = true) : x.isNaN = false := by
  have bounded : x.exponentField < 2047 := of_decide_eq_true finite
  simp only [isNaN, Bool.and_eq_false_iff, decide_eq_false_iff_not]
  exact .inl (Nat.ne_of_lt bounded)

/-- A value is its significand above its dropped bits, and so are its bits. -/
theorem exists_units (x : Binary64) :
    ∃ spare significand, significand < 2 ^ 53 ∧ (0 < spare → 2 ^ 52 ≤ significand) ∧
      x.magnitude = spare * 2 ^ 52 + significand ∧ x.units = significand * 2 ^ spare := by
  rw [units, exponentField_eq, fractionField_eq]
  split
  · next subnormal => exact ⟨0, x.magnitude % 2 ^ 52, by omega, by omega, by omega, by omega⟩
  · next normal =>
    refine ⟨x.magnitude / 2 ^ 52 - 1, 2 ^ 52 + x.magnitude % 2 ^ 52, by omega, by omega, by omega, ?_⟩
    simp only [Nat.pow_eq]

/-- The units of a value whose significand and dropped bits are known. -/
theorem units_ofMagnitude (negative : Bool) {spare significand : Nat} (narrow : significand ≤ 2 ^ 53)
    (full : 0 < spare → 2 ^ 52 ≤ significand) (finite : spare * 2 ^ 52 + significand < infiniteMagnitude) :
    (ofMagnitude negative (spare * 2 ^ 52 + significand)).units = significand * 2 ^ spare := by
  have fits : spare * 2 ^ 52 + significand < 2 ^ 63 := Nat.lt_trans finite (by decide)
  rw [units, exponentField_eq, fractionField_eq, magnitude_ofMagnitude negative fits]
  obtain ⟨small, rfl⟩ | high | carried :
      (significand < 2 ^ 52 ∧ spare = 0) ∨ (2 ^ 52 ≤ significand ∧ significand < 2 ^ 53) ∨ significand = 2 ^ 53 := by
    omega
  · rw [if_pos (by omega)]
    omega
  · rw [if_neg (by omega), show (spare * 2 ^ 52 + significand) / 2 ^ 52 - 1 = spare by omega, Nat.pow_eq]
    congr 1
    omega
  · rw [if_neg (by omega), show (spare * 2 ^ 52 + significand) / 2 ^ 52 - 1 = spare + 1 by omega,
      show (spare * 2 ^ 52 + significand) % 2 ^ 52 = 0 by omega, carried]
    simp only [Nat.pow_eq, Nat.add_zero, Nat.pow_succ]
    omega

theorem two_mul_le_of_lt (den : Nat) {spare spare' : Nat} (less : spare < spare') :
    2 * (den * 2 ^ spare) ≤ den * 2 ^ spare' := by
  rw [Nat.mul_left_comm, ← Nat.pow_succ']
  exact Nat.mul_le_mul_left den (Nat.pow_le_pow_right (by decide) less)

/-- The unit of the last bit of the greatest finite doubles. -/
def topUnit : Nat :=
  2 ^ 2045

theorem topUnit_pos : 0 < topUnit := by
  rw [topUnit]
  positivity

/-- Half a unit short of the power of two beyond them, quotients are rounded to finite doubles. -/
theorem roundedMagnitude_lt {num den : Nat} (positive : 0 < den) (below : 2 * num < (2 ^ 54 - 1) * (den * topUnit)) :
    roundedMagnitude num den < infiniteMagnitude := by
  rw [topUnit] at below
  obtain ⟨spare, significand, same, rounded⟩ := exists_isRounded num positive
  have narrow := rounded.narrow
  rw [same, infiniteMagnitude, Nat.pow_eq]
  rcases Nat.lt_or_ge spare 2045 with low | high
  · omega
  have full := (rounded.full (by omega)).2
  rcases Nat.eq_or_lt_of_le high with rfl | beyond
  · have near := rounded.near
    generalize den * 2 ^ 2045 = kept at below near full
    have : significand < 2 ^ 53 := by
      by_contra wide
      have : 2 ^ 53 * kept ≤ significand * kept := Nat.mul_le_mul_right kept (by omega)
      omega
    omega
  · have twice : 2 * (den * 2 ^ 2045) ≤ den * 2 ^ spare := two_mul_le_of_lt den beyond
    generalize den * 2 ^ 2045 = kept at below twice
    omega

/-- What is rounded to less than the two greatest finite magnitudes is two and a half units of the last bit short of the
power of two beyond them. -/
theorem le_of_roundedMagnitude_lt {num den : Nat} (positive : 0 < den)
    (below : roundedMagnitude num den < infiniteMagnitude - 2) : 2 * num ≤ (2 ^ 54 - 5) * (den * topUnit) := by
  rw [topUnit]
  obtain ⟨spare, significand, same, rounded⟩ := exists_isRounded num positive
  have narrow := rounded.narrow
  have near := rounded.near'
  rw [same, infiniteMagnitude, Nat.pow_eq] at below
  rcases Nat.lt_trichotomy spare 2045 with low | rfl | high
  · have twice : 2 * (den * 2 ^ spare) ≤ den * 2 ^ 2045 := two_mul_le_of_lt den low
    have : significand * (den * 2 ^ spare) ≤ 2 ^ 53 * (den * 2 ^ spare) := Nat.mul_le_mul_right _ narrow
    generalize den * 2 ^ 2045 = kept at twice
    generalize den * 2 ^ spare = dropped at twice near this
    omega
  · have : significand * (den * 2 ^ 2045) ≤ (2 ^ 53 - 3) * (den * 2 ^ 2045) := Nat.mul_le_mul_right _ (by omega)
    generalize den * 2 ^ 2045 = kept at near this
    omega
  · have := (rounded.full (by omega)).1
    omega

theorem two_mul_le_of_roundUnits {negative : Bool} {num den : Nat} (positive : 0 < den)
    (below : (roundUnits negative num den).magnitude < infiniteMagnitude - 2) :
    2 * num ≤ (2 ^ 54 - 5) * (den * topUnit) := by
  apply le_of_roundedMagnitude_lt positive
  rw [roundUnits_eq, magnitude_ofMagnitude _ (Nat.lt_of_le_of_lt (Nat.min_le_right _ _) (by decide))] at below
  omega

theorem isFinite_roundUnits (negative : Bool) {num den : Nat} (bounded : roundedMagnitude num den < infiniteMagnitude) :
    (roundUnits negative num den).isFinite = true := by
  have fits : roundedMagnitude num den < 2 ^ 63 := Nat.lt_trans bounded (by decide)
  rw [roundUnits_eq, Nat.min_eq_left (Nat.le_of_lt bounded), isFinite_iff, magnitude_ofMagnitude negative fits]
  exact bounded

/-- A whole number of units grows by one part in 2^53 at most. -/
theorem units_roundUnits_le (negative : Bool) {num : Nat} (bounded : roundedMagnitude num 1 < infiniteMagnitude) :
    2 ^ 53 * (roundUnits negative num 1).units ≤ (2 ^ 53 + 1) * num := by
  obtain ⟨spare, significand, same, rounded⟩ := exists_isRounded num Nat.one_pos
  have near := rounded.near
  rw [roundUnits_eq, Nat.min_eq_left (Nat.le_of_lt bounded), same,
    units_ofMagnitude negative rounded.narrow (fun some => (rounded.full some).1) (same ▸ bounded)]
  rw [Nat.one_mul] at near
  rcases Nat.eq_zero_or_pos spare with rfl | some
  · omega
  · have full := (rounded.full some).2
    rw [Nat.one_mul] at full
    generalize significand * 2 ^ spare = kept at near
    omega

theorem isFinite_roundUnits_mul (negative : Bool) {m n scale : Nat} (positive : 0 < scale)
    (left : roundedMagnitude (m * scale) 1 < infiniteMagnitude)
    (right : roundedMagnitude (n * scale) 1 < infiniteMagnitude)
    (below : 2 * (m * n * scale) ≤ (2 ^ 54 - 5) * topUnit) :
    (roundUnits negative ((roundUnits false (m * scale) 1).units * (roundUnits false (n * scale) 1).units)
      scale).isFinite = true := by
  apply isFinite_roundUnits
  apply roundedMagnitude_lt positive
  have grown : 2 ^ 106 * ((roundUnits false (m * scale) 1).units * (roundUnits false (n * scale) 1).units) ≤
      (2 ^ 53 + 1) ^ 2 * (scale * (m * n * scale)) :=
    calc 2 ^ 106 * ((roundUnits false (m * scale) 1).units * (roundUnits false (n * scale) 1).units)
      _ = 2 ^ 53 * (roundUnits false (m * scale) 1).units * (2 ^ 53 * (roundUnits false (n * scale) 1).units) := by ring
      _ ≤ (2 ^ 53 + 1) * (m * scale) * ((2 ^ 53 + 1) * (n * scale)) :=
        Nat.mul_le_mul (units_roundUnits_le false left) (units_roundUnits_le false right)
      _ = (2 ^ 53 + 1) ^ 2 * (scale * (m * n * scale)) := by ring
  have scaled : 2 * (scale * (m * n * scale)) ≤ (2 ^ 54 - 5) * (scale * topUnit) :=
    calc 2 * (scale * (m * n * scale))
      _ = scale * (2 * (m * n * scale)) := by ring
      _ ≤ scale * ((2 ^ 54 - 5) * topUnit) := Nat.mul_le_mul_left scale below
      _ = (2 ^ 54 - 5) * (scale * topUnit) := by ring
  have room : 0 < scale * topUnit := Nat.mul_pos positive topUnit_pos
  omega

/-- The product of two whole numbers, each rounded, is finite when the exact product stays a little below the end of the
finite doubles. -/
theorem isFinite_mul_ofNat {m n : Nat} (left : roundedMagnitude (m * Nat.pow 2 1074) 1 < infiniteMagnitude)
    (right : roundedMagnitude (n * Nat.pow 2 1074) 1 < infiniteMagnitude)
    (below : 2 * (m * n * Nat.pow 2 1074) ≤ (2 ^ 54 - 5) * topUnit) :
    ((ofNat m).mul (ofNat n)).isFinite = true := by
  have finite : (ofNat m).isFinite = true := isFinite_roundUnits false left
  have finite' : (ofNat n).isFinite = true := isFinite_roundUnits false right
  have powers (n : Nat) : 0 < Nat.pow 2 n := Nat.two_pow_pos n
  rw [mul, not_isNaN_of_isFinite finite, not_isNaN_of_isFinite finite', finite, finite']
  apply isFinite_roundUnits_mul
  · apply powers
  · exact left
  · exact right
  · exact below

end Binary64
end CpuUsage
