import CpuUsage.Proofs.Json.Number

/-! The numeral of a finite double is a number to the reader. It scales at most 64 bits of the digits by a power of ten and
rounds both and the product, which for all but the two greatest magnitudes stays below the end of the finite doubles by
what is known of the shortest digits; those two are read as they are. -/
namespace CpuUsage
open Binary64

namespace Numeral

/-- The digits that are taken make no more than the number, and those left over are digits of it. -/
theorem accumulate_spec (start : Nat) (cs : List Char) :
    (accumulate start cs).1 * 10 ^ (accumulate start cs).2.length ≤ digitsValue start cs ∧
      (accumulate start cs).2.length ≤ cs.length := by
  induction cs generalizing start with
  | nil => simp [accumulate, digitsValue]
  | cons c rest ih =>
    rw [accumulate]
    split
    · obtain ⟨least, short⟩ := ih (start * 10 + digitValue c)
      rw [digitsValue_cons, List.length_cons]
      exact ⟨least, Nat.le_succ_of_le short⟩
    · exact ⟨mul_pow_le_digitsValue start (c :: rest), Nat.le_refl _⟩

theorem scaleByTen_isSome_of_neg {fuel : Nat} {f : Binary64} {e : Int} (negative : e < 0) (near : -(308 * fuel) ≤ e) :
    (scaleByTen fuel f e).isSome := by
  induction fuel generalizing f e with
  | zero => omega
  | succ fuel ih =>
    rw [scaleByTen]
    split
    · rw [if_neg (by omega)]
      rfl
    · split
      · rfl
      · rw [if_neg (by omega)]
        exact ih (by omega) (by omega)

/-- The fives cancel between a bound at a scale of tens and one at a scale of twos. -/
theorem le_of_scaled {s k n c t : Nat} (bounded : 2 * (s * 10 ^ (k + n)) ≤ c * (Nat.pow 5 n * t)) :
    2 * (s * 10 ^ k * Nat.pow 2 n) ≤ c * t := by
  have tens : 10 ^ n = 5 ^ n * 2 ^ n := (Nat.mul_pow 5 2 n)
  have fives : 0 < 5 ^ n := Nat.pow_pos (by decide)
  apply Nat.le_of_mul_le_mul_left _ fives
  calc 5 ^ n * (2 * (s * 10 ^ k * 2 ^ n))
    _ = 2 * (s * 10 ^ (k + n)) := by rw [Nat.pow_add, tens]; ring
    _ ≤ c * (5 ^ n * t) := bounded
    _ = 5 ^ n * (c * t) := by ring

theorem two_mul_le_of_isBounded {s k : Nat} (bounded : IsBounded (s * 10 ^ (k + 1074))) :
    2 * (s * 10 ^ k * Nat.pow 2 1074) ≤ (2 ^ 54 - 5) * topUnit := by
  apply le_of_scaled
  exact bounded

/-- The powers of ten that are finite doubles, in units of 2^-n. -/
theorem pow_lt_of_le {k : Nat} (small : k ≤ 308) (n : Nat) : 10 ^ k * Nat.pow 2 n < (2 ^ 53 - 1) * 2 ^ (971 + n) := by
  have tens : 10 ^ 308 < (2 ^ 53 - 1) * 2 ^ 971 := by decide +kernel
  rw [pow_add, ← Nat.mul_assoc]
  exact Nat.mul_lt_mul_of_pos_right (Nat.lt_of_le_of_lt (pow_le_pow_right₀ (by decide) small) tens)
    (Nat.two_pow_pos n)

theorem le_pow_of_lt {k : Nat} (great : 308 < k) (n : Nat) : 2 ^ 55 * 2 ^ (971 + n) ≤ 10 ^ k * Nat.pow 2 n := by
  have tens : 2 ^ 55 * 2 ^ 971 ≤ 10 ^ 309 := by decide +kernel
  rw [pow_add, ← Nat.mul_assoc]
  exact Nat.mul_le_mul_right _ (Nat.le_trans tens (pow_le_pow_right₀ (by decide) great))

theorem eq_zero_of_isBounded {s k : Nat} (bounded : IsBounded (s * 10 ^ (k + 1074))) (great : 308 < k) : s = 0 := by
  by_contra nonzero
  have most := two_mul_le_of_isBounded bounded
  have least := le_pow_of_lt great 1074
  have grown : 10 ^ k * Nat.pow 2 1074 ≤ s * 10 ^ k * Nat.pow 2 1074 :=
    Nat.mul_le_mul_right _ (Nat.le_mul_of_pos_left _ (Nat.pos_of_ne_zero nonzero))
  have positive := topUnit_pos
  rw [topUnit] at most positive
  omega

theorem ofDecimal_pow {k : Nat} (small : k ≤ 308) : ofDecimal false 1 (k : Int) = Binary64.ofNat (10 ^ k) := by
  have one : (Nat.toDigits 10 1).length = 1 := by decide
  rw [ofDecimal, one, if_neg (by omega), if_neg (by omega), if_pos (by omega), Int.toNat_natCast, Nat.one_mul,
    Binary64.ofNat]
  rfl

theorem units_ofNat_zero : (Binary64.ofNat 0).units = 0 := by
  decide +kernel

theorem isFinite_mul_pow {s k : Nat} (bounded : IsBounded (s * 10 ^ (k + 1074))) (small : k ≤ 308) :
    ((Binary64.ofNat s).mul (ofDecimal false 1 k)).isFinite = true := by
  have most := two_mul_le_of_isBounded bounded
  have power := pow_lt_of_le small 1074
  have positive := topUnit_pos
  rw [ofDecimal_pow small]
  have grown : s * Nat.pow 2 1074 ≤ s * 10 ^ k * Nat.pow 2 1074 :=
    Nat.mul_le_mul_right _ (Nat.le_mul_of_pos_right _ (Nat.pow_pos (by decide)))
  apply isFinite_mul_ofNat
  · apply roundedMagnitude_lt Nat.one_pos
    rw [Nat.one_mul]
    omega
  · apply roundedMagnitude_lt Nat.one_pos
    rw [Nat.one_mul]
    rw [topUnit] at positive ⊢
    omega
  · exact most

/-- A bounded number is scaled to a finite double. -/
theorem scaleByTen_isSome_of_isBounded {fuel s k : Nat} (bounded : IsBounded (s * 10 ^ (k + 1074))) :
    (scaleByTen (fuel + 1) (Binary64.ofNat s) k).isSome := by
  rw [scaleByTen]
  split
  · next small =>
    rw [if_pos (by omega), Int.natAbs_natCast, if_pos (isFinite_mul_pow bounded (by omega))]
    rfl
  · next great =>
    obtain rfl := eq_zero_of_isBounded bounded (by omega)
    rw [if_pos]
    · rfl
    · exact units_ofNat_zero

/-- Down to 10^-1074, which four steps of scaling reach, and up to the bound. -/
theorem scaleByTen_isSome {s : Nat} {e : Int} (lowest : -1074 ≤ e)
    (bounded : IsBounded (s * 10 ^ (e + 1074).toNat)) : (scaleByTen 4 (Binary64.ofNat s) e).isSome := by
  rcases Int.lt_or_le e 0 with negative | positive
  · exact scaleByTen_isSome_of_neg negative (by omega)
  · obtain ⟨k, rfl⟩ := Int.eq_ofNat_of_zero_le positive
    apply scaleByTen_isSome_of_isBounded
    rwa [show ((k : Int) + 1074).toNat = k + 1074 by omega] at bounded

def power (n : Numeral) : Int :=
  match n.exponent with
  | none => 0
  | some (_, sign, digits) => if sign = some '-' then -digitsValue 0 digits else digitsValue 0 digits

def fractionDigits (n : Numeral) : List Char :=
  n.fraction.getD []

/-- An exponent that does not run into the limit is added to what the digits leave over. -/
theorem float?_eq {n : Numeral} {start : Int} (within : n.power.natAbs ≤ exponentLimit) (s : Nat)
    (low : -exponentLimit - 1 ≤ start + n.power) (high : start + n.power ≤ exponentLimit) :
    n.float? s start = (scaleByTen 4 (Binary64.ofNat s) (start + n.power)).map (withSign n.negative) := by
  unfold float?
  unfold power at within low high ⊢
  cases held : n.exponent with
  | none => simp
  | some e =>
    obtain ⟨mark, sign, digits⟩ := e
    simp only [held] at within low high ⊢
    by_cases down : sign = some '-'
    · simp only [down, if_true] at within low high ⊢
      rw [if_neg (by omega), ← Int.sub_eq_add_neg, Int.max_eq_left (by omega)]
    · simp only [down, if_false] at within low high ⊢
      rw [if_neg (by omega), Int.min_eq_left (by omega)]

/-- What is left over of the digits only makes the number smaller, so that the digits taken are bounded with them. -/
theorem float?_isSome {n : Numeral} {s : Nat} (left : Nat) (start : Int) (within : n.power.natAbs ≤ exponentLimit)
    (lowest : -1074 ≤ start + n.power) (falling : start + left ≤ 0)
    (bounded : IsBounded (s * 10 ^ left * 10 ^ (start + n.power + 1074).toNat)) :
    (n.float? s (start + left)).isSome := by
  have limit : exponentLimit = 2147483647 := rfl
  rw [float?_eq within s (by omega) (by omega), Option.isSome_map]
  apply scaleByTen_isSome (by omega)
  rwa [Nat.mul_assoc, ← pow_add, show left + (start + n.power + 1074).toNat =
    (start + left + n.power + 1074).toNat by omega] at bounded

/-- A numeral with a fraction or an exponent, whose whole digits fit, stands for a number of units of 10^-1074. -/
structure StandsFor (n : Numeral) (scaled : Nat) : Prop where
  inexact : n.fraction ≠ none ∨ n.exponent ≠ none
  whole : digitsValue 0 n.whole < uint64Bound
  within : n.power.natAbs ≤ exponentLimit
  lowest : -1074 ≤ n.power - n.fractionDigits.length
  same : digitsValue 0 (n.whole ++ n.fractionDigits) * 10 ^ (n.power - n.fractionDigits.length + 1074).toNat = scaled

/-- What stands for a bounded number is a number to the reader. -/
theorem StandsFor.value?_isSome {n : Numeral} {scaled : Nat} (stands : n.StandsFor scaled)
    (bounded : IsBounded scaled) : n.value?.isSome := by
  obtain ⟨inexact, whole, within, lowest, rfl⟩ := stands
  rw [value?, accumulate_eq whole]
  cases fraction : n.fraction with
  | none =>
    obtain ⟨e, exponent⟩ := Option.ne_none_iff_exists'.mp (inexact.resolve_left fun some => some fraction)
    simp only [exponent, Option.isSome_map]
    simp only [fractionDigits, fraction, Option.getD_none, List.length_nil, List.append_nil] at lowest bounded
    exact float?_isSome 0 0 within (by omega) (by omega) (by simpa using bounded)
  | some digits =>
    obtain ⟨least, short⟩ := accumulate_spec (digitsValue 0 n.whole) digits
    simp only [fractionDigits, fraction, Option.getD_some] at lowest bounded
    rw [digitsValue_append] at bounded
    have taken := float?_isSome _ (-digits.length) within (by omega) (by omega)
      (bounded.mono (Nat.mul_le_mul least (le_of_eq (by congr 2; omega))))
    have left : ((0 : Nat) : Int) - (digits.length - (accumulate (digitsValue 0 n.whole) digits).2.length) =
        -digits.length + (accumulate (digitsValue 0 n.whole) digits).2.length := by omega
    simp only [Option.isSome_map, List.length_nil, left, taken]

theorem digitsValue_fits {cs : List Char} (all : ∀ c ∈ cs, isDigit c = true) (short : cs.length ≤ 16) :
    digitsValue 0 cs < uint64Bound :=
  Nat.lt_of_lt_of_le (digitsValue_lt all 0)
    (Nat.le_trans (Nat.mul_le_mul_left _ (Nat.pow_le_pow_right (by decide) short)) (by decide))

theorem power_signed (negative : Bool) (whole : List Char) (fraction : Option (List Char)) (e : Int) :
    power ⟨negative, whole, fraction, some ('e', some (if e < 0 then '-' else '+'), Nat.toDigits 10 e.natAbs)⟩ = e := by
  by_cases down : e < 0
  · simp only [power, digitsValue_toDigits, if_pos down, if_true]
    omega
  · simp only [power, digitsValue_toDigits, if_neg down]
    rw [if_neg (by decide)]
    omega

/-- However the shortest digits are set out, the numeral stands for them. -/
theorem standsFor_ofBinary64 {x : Binary64} (nonzero : x.units ≠ 0) (lowest : -1074 ≤ x.shortest.exponent)
    (small : x.shortest.point ≤ exponentLimit) : (ofBinary64 x).StandsFor x.shortest.scaled := by
  have limit : exponentLimit = 2147483647 := rfl
  have digits : AreDigits x.shortest.digits := areDigits_toDigits _
  have point : x.shortest.point = x.shortest.exponent + x.shortest.digits.length := rfl
  have spelt : digitsValue 0 x.shortest.digits = x.shortest.coefficient := digitsValue_toDigits _
  have nonempty := List.length_pos_iff.mpr digits.nonempty
  simp only [ofBinary64, if_neg nonzero]
  split
  · -- zeros behind the digits
    next shape =>
    refine ⟨.inl (Option.some_ne_none _), ?_, by simp [power, limit], by simp [power, fractionDigits], ?_⟩
    · exact digitsValue_fits (digits.append fun c => isDigit_of_mem_zeros).all (by simp; omega)
    · have tail : ['0'] = List.replicate 1 '0' := rfl
      simp only [power, fractionDigits, Option.getD_some, tail, digitsValue_append, spelt,
        digitsValue_replicate_zero, List.length_replicate, Decimal.scaled]
      rw [Nat.mul_assoc, Nat.mul_assoc, ← pow_add, ← pow_add]
      congr 2
      omega
  split
  · -- the point among the digits
    next shape =>
    refine ⟨.inl (Option.some_ne_none _), ?_, by simp [power, limit], ?_, ?_⟩
    · exact digitsValue_fits (digits.take (by omega)).all (by simp; omega)
    · simp only [power, fractionDigits, Option.getD_some, List.length_drop]
      omega
    · simp only [power, fractionDigits, Option.getD_some, List.take_append_drop, spelt, List.length_drop,
        Decimal.scaled]
      congr 3
      omega
  split
  · -- zeros in front of the digits
    next shape =>
    refine ⟨.inl (Option.some_ne_none _), digitsValue_fits areDigits_zero.all (Nat.le_of_ble_eq_true rfl),
      by simp [power, limit], ?_, ?_⟩
    · simp only [power, fractionDigits, Option.getD_some, List.length_append, List.length_replicate]
      omega
    · have head : ['0'] = List.replicate 1 '0' := rfl
      simp only [power, fractionDigits, Option.getD_some, head, digitsValue_zeros, spelt, List.length_append,
        List.length_replicate, Decimal.scaled]
      congr 3
      omega
  · -- one digit, and an exponent
    have fraction : (if x.shortest.digits.length = 1 then none else some (x.shortest.digits.drop 1)).getD [] =
        x.shortest.digits.drop 1 := by
      split
      · next single => simp [List.drop_eq_nil_of_le, single]
      · rfl
    refine ⟨.inr (Option.some_ne_none _), ?_, ?_, ?_, ?_⟩
    · exact digitsValue_fits (digits.take (by decide)).all (by simp)
    · rw [power_signed]
      omega
    · rw [power_signed, fractionDigits, fraction, List.length_drop]
      omega
    · rw [power_signed, fractionDigits, fraction, List.length_drop, List.take_append_drop, spelt, Decimal.scaled]
      congr 3
      omega

/-- A bounded decimal has at most 309 digits before its point. -/
theorem point_le_of_isBounded {x : Binary64} (nonzero : x.units ≠ 0) (lowest : -1074 ≤ x.shortest.exponent)
    (bounded : IsBounded x.shortest.scaled) : x.shortest.point ≤ 309 := by
  by_contra beyond
  have nonempty : 0 < x.shortest.digits.length := List.length_pos_iff.mpr (areDigits_toDigits _).nonempty
  have point : x.shortest.point = x.shortest.exponent + x.shortest.digits.length := rfl
  obtain ⟨k, same⟩ := Int.eq_ofNat_of_zero_le (show 0 ≤ x.shortest.point - 1 by omega)
  have least : 1 * 10 ^ (k + 1074) ≤ x.shortest.scaled :=
    calc 1 * 10 ^ (k + 1074)
      _ = 10 ^ (x.shortest.digits.length - 1) * 10 ^ (x.shortest.exponent + 1074).toNat := by
        rw [Nat.one_mul, ← pow_add]
        congr 1
        omega
      _ ≤ x.shortest.scaled :=
        Nat.mul_le_mul_right _ (pow_le_of_toDigits (coefficient_shortest_ne_zero nonzero))
  exact absurd (eq_zero_of_isBounded (bounded.mono least) (by omega)) Nat.one_ne_zero

/-- The two greatest magnitudes, which rounding on the way could carry too far, are read as well. -/
theorem value?_greatest_isSome : ∀ negative : Bool, ∀ k ∈ [1, 2],
    (ofBinary64 (ofMagnitude negative (infiniteMagnitude - k))).value?.isSome = true := by
  decide +kernel

theorem value?_zero_isSome (negative : Bool) : (value? ⟨negative, ['0'], some ['0'], none⟩).isSome := by
  cases negative <;> decide +kernel

/-- The numeral of a finite double is a number. -/
theorem value?_ofBinary64_isSome {x : Binary64} (finite : x.isFinite = true) : (ofBinary64 x).value?.isSome := by
  by_cases zero : x.units = 0
  · rw [ofBinary64, if_pos zero]
    exact value?_zero_isSome x.negative
  rcases Nat.lt_or_ge x.magnitude (infiniteMagnitude - 2) with below | greatest
  · have lowest := (x.shortest_spec finite).1
    have bounded := isBounded_shortest below
    have point := point_le_of_isBounded zero lowest bounded
    exact (standsFor_ofBinary64 zero lowest (Int.le_trans point (by decide))).value?_isSome bounded
  · have bound := x.isFinite_iff.mp finite
    have near : infiniteMagnitude - x.magnitude ∈ [1, 2] := by
      simp only [List.mem_cons, List.not_mem_nil, or_false]
      omega
    have read := value?_greatest_isSome x.negative _ near
    rwa [Nat.sub_sub_self (Nat.le_of_lt bound), ofMagnitude_magnitude] at read

end Numeral

end CpuUsage
