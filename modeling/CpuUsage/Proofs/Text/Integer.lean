import CpuUsage.Proofs.Rfc3339
import CpuUsage.Proofs.Text.Blank

/-! Integers as decimal text. What is written for a number is read back as that number wherever 64 bits hold it, below
zero as well. -/
namespace CpuUsage

theorem readNat?_toDigits (n : Nat) : readNat? (Nat.toDigits 10 n) = some n := by
  have digits := areDigits_toDigits n
  rw [readNat?, if_pos ⟨digits.nonempty, List.all_eq_true.mpr digits.all⟩, digitsValue_toDigits]

/-- A minus sign where it is needed, and digits. -/
theorem toList_toString (n : Int) :
    (toString n).toList = (if n < 0 then ['-'] else []) ++ Nat.toDigits 10 n.natAbs := by
  cases n with
  | ofNat n => simp [Int.toString_eq_repr, Int.repr, Nat.toList_repr]
  | negSucc n => simp [Int.toString_eq_repr, Int.repr, Nat.toList_repr, Int.negSucc_lt_zero]

theorem readInt64?_of_areDigits {cs : List Char} (digits : AreDigits cs) :
    readInt64? cs = ((readNat? cs).map Int.ofNat).filter fitsInt64 := by
  have noSign : isDigit '+' = false ∧ isDigit '-' = false := by decide
  unfold readInt64?
  split
  · simpa [noSign] using digits.all '+' List.mem_cons_self
  · simpa [noSign] using digits.all '-' List.mem_cons_self
  · rfl

/-- A number is read back from its text. -/
theorem readInt64?_toString {n : Int} (fits : fitsInt64 n = true) : readInt64? (toString n).toList = some n := by
  rw [toList_toString]
  by_cases negative : n < 0
  · have spelt : -(n.natAbs : Int) = n := by omega
    rw [if_pos negative, List.singleton_append]
    simp only [readInt64?, readNat?_toDigits]
    change (some (-(n.natAbs : Int))).filter fitsInt64 = some n
    rw [spelt, Option.filter_some, if_pos fits]
  · have spelt : (n.natAbs : Int) = n := by omega
    rw [if_neg negative, List.nil_append, readInt64?_of_areDigits (areDigits_toDigits _), readNat?_toDigits,
      Option.map_some, Int.ofNat_eq_natCast, spelt, Option.filter_some, if_pos fits]

theorem trimmed_toString (n : Int) : Trimmed (toString n).toList := by
  have notBlank : ∀ c ∈ (toString n).toList, isBlank c = false := by
    intro c member
    rw [toList_toString] at member
    rcases List.mem_append.mp member with sign | digit
    · split at sign
      · rw [List.mem_singleton.mp sign]
        decide
      · contradiction
    · exact isBlank_of_isDigit (isDigit_of_mem_toDigits digit)
  exact ⟨fun c first => notBlank c (List.mem_of_mem_head? first), fun c last =>
    notBlank c (List.mem_reverse.mp (List.mem_of_mem_head? last))⟩

end CpuUsage
