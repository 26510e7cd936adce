import CpuUsage.Text.Number
import Mathlib.Algebra.Group.Nat.Defs

/-! Runs of characters in front of a text, and the decimal digits of a number as such a run. -/
namespace CpuUsage

/-- A run of characters that `p` accepts does not go on into the text. -/
def Stops (p : Char → Bool) (rest : List Char) : Prop :=
  ∀ c ∈ rest.head?, p c = false

@[simp] theorem stops_nil (p : Char → Bool) : Stops p [] :=
  fun c first => absurd first (by simp)

@[simp] theorem stops_cons {p : Char → Bool} {c : Char} {rest : List Char} : Stops p (c :: rest) ↔ p c = false := by
  simp [Stops]

theorem takeWhile_append_of_stops {p : Char → Bool} {cs rest : List Char} (all : ∀ c ∈ cs, p c = true)
    (stops : Stops p rest) : (cs ++ rest).takeWhile p = cs := by
  rw [List.takeWhile_append_of_pos all]
  cases rest with
  | nil => simp
  | cons c rest => simp [stops_cons.mp stops]

theorem dropWhile_append_of_stops {p : Char → Bool} {cs rest : List Char} (all : ∀ c ∈ cs, p c = true)
    (stops : Stops p rest) : (cs ++ rest).dropWhile p = rest := by
  rw [List.dropWhile_append_of_pos all]
  cases rest with
  | nil => simp
  | cons c rest => simp [stops_cons.mp stops]

theorem isDigit_eq (c : Char) : isDigit c = c.isDigit := by
  simp only [isDigit, Char.isDigit, Char.le_def, ge_iff_le]

theorem toNat_of_isDigit {c : Char} (digit : isDigit c = true) : 48 ≤ c.toNat ∧ c.toNat ≤ 57 := by
  rw [isDigit_eq] at digit
  exact Char.isDigit_iff_toNat.mp digit

/-- One digit or more, and nothing else. -/
structure AreDigits (cs : List Char) : Prop where
  nonempty : cs ≠ []
  all : ∀ c ∈ cs, isDigit c = true

theorem isDigit_of_mem_toDigits {n : Nat} {c : Char} (member : c ∈ Nat.toDigits 10 n) : isDigit c = true := by
  rw [isDigit_eq]
  exact Nat.isDigit_of_mem_toDigits (by decide) (by decide) member

theorem areDigits_toDigits (n : Nat) : AreDigits (Nat.toDigits 10 n) :=
  ⟨Nat.toDigits_ne_nil, fun _ => isDigit_of_mem_toDigits⟩

theorem digitsValue_cons (start : Nat) (c : Char) (cs : List Char) :
    digitsValue start (c :: cs) = digitsValue (start * 10 + digitValue c) cs := by
  simp only [digitsValue, List.foldl_cons]

theorem digitsValue_eq_ofDigitChars (start : Nat) (cs : List Char) :
    digitsValue start cs = Nat.ofDigitChars 10 cs start := by
  have step : (fun n c => n * 10 + digitValue c) = fun n c => 10 * n + (c.toNat - '0'.toNat) := by
    funext n c
    rw [Nat.mul_comm, digitValue]
    simp
  rw [digitsValue, step]
  rfl

/-- The digits of a number spell it. -/
theorem digitsValue_toDigits (n : Nat) : digitsValue 0 (Nat.toDigits 10 n) = n := by
  rw [digitsValue_eq_ofDigitChars, Nat.ofDigitChars_ten_toDigits]

theorem digitsValue_zeros (count : Nat) (cs : List Char) :
    digitsValue 0 (List.replicate count '0' ++ cs) = digitsValue 0 cs := by
  induction count with
  | zero => rfl
  | succ count ih =>
    have zero : 0 * 10 + digitValue '0' = 0 := by decide
    rw [List.replicate_succ, List.cons_append, digitsValue_cons, zero, ih]

/-- Digits only ever make a number greater. -/
theorem le_digitsValue (start : Nat) (cs : List Char) : start ≤ digitsValue start cs := by
  induction cs generalizing start with
  | nil => exact Nat.le_refl start
  | cons c rest ih =>
    have := ih (start * 10 + digitValue c)
    rw [digitsValue_cons]
    omega

theorem digitsValue_replicate_zero (start count : Nat) :
    digitsValue start (List.replicate count '0') = start * 10 ^ count := by
  induction count generalizing start with
  | zero => simp [digitsValue]
  | succ count ih =>
    have zero : digitValue '0' = 0 := by decide
    rw [List.replicate_succ, digitsValue_cons, ih, zero, Nat.pow_succ', Nat.add_zero, Nat.mul_assoc]

theorem digitsValue_append (start : Nat) (cs ds : List Char) :
    digitsValue start (cs ++ ds) = digitsValue (digitsValue start cs) ds :=
  List.foldl_append

/-- Each further digit counts ten times what stands before it. -/
theorem mul_pow_le_digitsValue (start : Nat) (cs : List Char) : start * 10 ^ cs.length ≤ digitsValue start cs := by
  induction cs generalizing start with
  | nil => simp [digitsValue]
  | cons c rest ih =>
    rw [digitsValue_cons, List.length_cons, Nat.pow_succ', ← Nat.mul_assoc]
    exact Nat.le_trans (Nat.mul_le_mul_right _ (by omega)) (ih _)

theorem digitsValue_lt {cs : List Char} (all : ∀ c ∈ cs, isDigit c = true) (start : Nat) :
    digitsValue start cs < (start + 1) * 10 ^ cs.length := by
  induction cs generalizing start with
  | nil => simp [digitsValue]
  | cons c rest ih =>
    have digit : digitValue c < 10 := by
      have := toNat_of_isDigit (all c (.head _))
      simp only [digitValue]
      omega
    rw [digitsValue_cons, List.length_cons, Nat.pow_succ', ← Nat.mul_assoc]
    exact Nat.lt_of_lt_of_le (ih (fun c' held => all c' (.tail _ held)) _) (Nat.mul_le_mul_right _ (by omega))

/-- Only the digits of zero begin with a zero. -/
theorem head?_toDigits_ne_zero {n : Nat} (positive : n ≠ 0) : (Nat.toDigits 10 n).head? ≠ some '0' := by
  induction n using Nat.strongRecOn with
  | ind n ih =>
    by_cases small : n < 10
    · have single : ∀ d < 10, d ≠ 0 → [d.digitChar].head? ≠ some '0' := by decide
      rw [Nat.toDigits_of_lt_base small]
      exact single n small positive
    · have shorter := ih (n / 10) (by omega) (by omega)
      rw [Nat.toDigits_of_base_le (by decide) (by omega), List.head?_append]
      cases first : (Nat.toDigits 10 (n / 10)).head? with
      | none => exact absurd (List.head?_eq_none_iff.mp first) Nat.toDigits_ne_nil
      | some c => simpa [first] using shorter

/-- The first digit alone makes a number this great. -/
theorem pow_le_of_toDigits {n : Nat} (positive : n ≠ 0) : 10 ^ ((Nat.toDigits 10 n).length - 1) ≤ n := by
  obtain ⟨d, ds, cons⟩ := List.exists_cons_of_ne_nil (areDigits_toDigits n).nonempty
  have first : d ≠ '0' := by
    have := head?_toDigits_ne_zero positive
    rw [cons] at this
    simpa using this
  have value : 1 ≤ digitValue d := by
    have digit := toNat_of_isDigit ((areDigits_toDigits n).all d (by simp [cons]))
    have other : d.toNat ≠ 48 := fun same => first (Char.toNat_inj.mp same)
    simp only [digitValue]
    omega
  have spelt := digitsValue_toDigits n
  rw [cons, digitsValue_cons, Nat.zero_mul, Nat.zero_add] at spelt
  rw [cons, List.length_cons, Nat.add_sub_cancel]
  calc 10 ^ ds.length
    _ ≤ digitValue d * 10 ^ ds.length := Nat.le_mul_of_pos_left _ value
    _ ≤ n := by rw [← spelt]; exact mul_pow_le_digitsValue _ _

theorem toDigits_eq_of_head_zero {n : Nat} (zero : (Nat.toDigits 10 n).head? = some '0') :
    Nat.toDigits 10 n = ['0'] := by
  by_cases positive : n ≠ 0
  · exact absurd zero (head?_toDigits_ne_zero positive)
  · rw [Decidable.not_not.mp positive, Nat.toDigits_zero]

theorem readNat?_eq_some_iff {cs : List Char} {n : Nat} :
    readNat? cs = some n ↔ AreDigits cs ∧ digitsValue 0 cs = n := by
  rw [readNat?, Option.ite_none_right_eq_some, Option.some.injEq, List.all_eq_true]
  exact and_congr_left' ⟨fun ⟨nonempty, all⟩ => ⟨nonempty, all⟩, fun digits => ⟨digits.nonempty, digits.all⟩⟩

/-- A sign is no digit, so it can be told from what it stands before. -/
theorem readUnsigned?_eq_some_iff {bound n : Nat} {cs : List Char} :
    readUnsigned? bound cs = some n ↔
      n < bound ∧ ∃ digits, (cs = digits ∨ cs = '+' :: digits) ∧ AreDigits digits ∧ digitsValue 0 digits = n := by
  have noSign : isDigit '+' = false := by decide
  simp only [readUnsigned?, Option.filter_eq_some_iff, decide_eq_true_eq, and_comm (b := n < bound)]
  refine and_congr_right' ?_
  constructor
  · intro read
    split at read
    · exact ⟨_, .inr rfl, readNat?_eq_some_iff.mp read⟩
    · exact ⟨_, .inl rfl, readNat?_eq_some_iff.mp read⟩
  · rintro ⟨digits, rfl | rfl, areDigits, spelt⟩
    · split
      · simpa [noSign] using areDigits.all '+' List.mem_cons_self
      · exact readNat?_eq_some_iff.mpr ⟨areDigits, spelt⟩
    · exact readNat?_eq_some_iff.mpr ⟨areDigits, spelt⟩

namespace AreDigits

theorem append {cs ds : List Char} (first : AreDigits cs) (second : ∀ c ∈ ds, isDigit c = true) :
    AreDigits (cs ++ ds) :=
  ⟨fun empty => first.nonempty (List.append_eq_nil_iff.mp empty).1, List.forall_mem_append.mpr ⟨first.all, second⟩⟩

theorem prepend {cs ds : List Char} (first : ∀ c ∈ cs, isDigit c = true) (second : AreDigits ds) :
    AreDigits (cs ++ ds) :=
  ⟨fun empty => second.nonempty (List.append_eq_nil_iff.mp empty).2, List.forall_mem_append.mpr ⟨first, second.all⟩⟩

theorem take {cs : List Char} (digits : AreDigits cs) {count : Nat} (some : 0 < count) : AreDigits (cs.take count) where
  nonempty := by
    have := List.length_pos_iff.mpr digits.nonempty
    apply List.ne_nil_of_length_pos
    rw [List.length_take]
    omega
  all := fun c member => digits.all c (List.mem_of_mem_take member)

theorem drop {cs : List Char} (digits : AreDigits cs) {count : Nat} (short : count < cs.length) :
    AreDigits (cs.drop count) where
  nonempty := by
    apply List.ne_nil_of_length_pos
    rw [List.length_drop]
    omega
  all := fun c member => digits.all c (List.mem_of_mem_drop member)

end AreDigits

theorem isDigit_of_mem_zeros {count : Nat} {c : Char} (member : c ∈ List.replicate count '0') : isDigit c = true := by
  rw [List.eq_of_mem_replicate member]
  decide

end CpuUsage
