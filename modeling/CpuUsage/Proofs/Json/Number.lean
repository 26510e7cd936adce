import CpuUsage.Json.Reader
import CpuUsage.Json.Writer
import CpuUsage.Proofs.Binary64.Shortest
import CpuUsage.Proofs.Text.Digits

/-! Numerals are read as they are written. A numeral ends where nothing follows that would go on with it, and the digits
of a number within 64 bits are read as that number. -/
namespace CpuUsage

/-- What goes on with a numeral. -/
def continuesNumeral (c : Char) : Bool :=
  isDigit c || c = '.' || c = 'e' || c = 'E'

namespace Numeral

/-- A numeral of the grammar: no leading zeros, and digits on both sides of the point and in the exponent. -/
structure WellFormed (n : Numeral) : Prop where
  whole : AreDigits n.whole
  leading : n.whole.head? = some '0' → n.whole = ['0']
  fraction : ∀ digits ∈ n.fraction, AreDigits digits
  mark : ∀ e ∈ n.exponent, e.1 = 'e' ∨ e.1 = 'E'
  sign : ∀ e ∈ n.exponent, ∀ c ∈ e.2.1, c = '+' ∨ c = '-'
  power : ∀ e ∈ n.exponent, AreDigits e.2.2

end Numeral

theorem readDigits?_append {digits rest : List Char} (areDigits : AreDigits digits) (stops : Stops isDigit rest) :
    readDigits? (digits ++ rest) = some (digits, rest) := by
  simp only [readDigits?, takeWhile_append_of_stops areDigits.2 stops, dropWhile_append_of_stops areDigits.2 stops,
    if_neg areDigits.1]

theorem readWhole?_append {digits rest : List Char} (areDigits : AreDigits digits)
    (leading : digits.head? = some '0' → digits = ['0']) (stops : Stops isDigit rest) :
    readWhole? (digits ++ rest) = some (digits, rest) := by
  rw [readWhole?, readDigits?_append areDigits stops]
  split
  · next a b rest' same =>
    cases same
    cases leading rfl
  · rfl

theorem stops_isDigit {rest : List Char} (stops : Stops continuesNumeral rest) : Stops isDigit rest := by
  intro c first
  have := stops c first
  simp only [continuesNumeral, Bool.or_eq_false_iff] at this
  exact this.1.1.1

namespace Numeral

def fractionText : Option (List Char) → List Char
  | none => []
  | some digits => '.' :: digits

def powerText : Option (Char × Option Char × List Char) → List Char
  | none => []
  | some (mark, sign, digits) => mark :: (sign.toList ++ digits)

theorem write_eq (n : Numeral) :
    n.write = (if n.negative then ['-'] else []) ++ (n.whole ++ (fractionText n.fraction ++ powerText n.exponent)) := by
  rw [write, List.append_assoc, List.append_assoc]
  cases n.fraction <;> cases n.exponent <;> rfl

/-- What is left to do once the sign is read. -/
def readBehindSign (negative : Bool) (cs : List Char) : Option (Numeral × List Char) := do
  let (whole, cs) ← readWhole? cs
  let (fraction, cs) ← readFraction? cs
  let (exponent, cs) ← readPower? cs
  return (⟨negative, whole, fraction, exponent⟩, cs)

theorem readNumeral?_cons {c : Char} (unsigned : c ≠ '-') (cs : List Char) :
    readNumeral? (c :: cs) = readBehindSign false (c :: cs) := by
  simp only [readNumeral?]
  split
  · next same =>
    cases same
    contradiction
  · rfl

section
variable {n : Numeral} (wf : n.WellFormed) {rest : List Char} (stops : Stops continuesNumeral rest)
include wf stops

theorem readPower?_powerText : readPower? (powerText n.exponent ++ rest) = some (n.exponent, rest) := by
  cases power : n.exponent with
  | none =>
    cases rest with
    | nil => rfl
    | cons c rest =>
      have other : ¬ (c = 'e' ∨ c = 'E') := by
        have := stops_cons.mp stops
        simp only [continuesNumeral, Bool.or_eq_false_iff, decide_eq_false_iff_not] at this
        exact not_or.mpr ⟨this.1.2, this.2⟩
      rw [powerText, List.nil_append, readPower?, if_neg other]
  | some e =>
    obtain ⟨mark, sign, digits⟩ := e
    have areDigits : AreDigits digits := wf.power _ power
    have signRead : readSign (sign.toList ++ (digits ++ rest)) = (sign, digits ++ rest) := by
      cases sign with
      | some c => rcases wf.sign _ power c rfl with rfl | rfl <;> rfl
      | none =>
        obtain ⟨d, ds, rfl⟩ := List.exists_cons_of_ne_nil areDigits.1
        have digit := areDigits.2 d List.mem_cons_self
        simp only [Option.toList_none, List.nil_append, List.cons_append, readSign]
        split
        · next same =>
          cases same
          contradiction
        · next same =>
          cases same
          contradiction
        · rfl
    rw [powerText, List.cons_append, List.append_assoc, readPower?, if_pos (wf.mark _ power), signRead]
    simp only [readDigits?_append areDigits (stops_isDigit stops), Option.map_some]

/-- Behind the fraction comes the mark of an exponent or what ends the numeral, but no digit and no point. -/
theorem head_powerText : ∀ c ∈ (powerText n.exponent ++ rest).head?, isDigit c = false ∧ c ≠ '.' := by
  intro c first
  cases power : n.exponent with
  | none =>
    rw [power] at first
    have := stops c first
    simp only [continuesNumeral, Bool.or_eq_false_iff, decide_eq_false_iff_not] at this
    exact ⟨this.1.1.1, this.1.1.2⟩
  | some e =>
    have mark : e.1 = c := by simpa [power, powerText] using first
    rcases wf.mark e power with same | same
    · rw [← mark, same]
      decide
    · rw [← mark, same]
      decide

theorem readFraction?_fractionText :
    readFraction? (fractionText n.fraction ++ (powerText n.exponent ++ rest)) =
      some (n.fraction, powerText n.exponent ++ rest) := by
  have head := head_powerText wf stops
  cases fraction : n.fraction with
  | none =>
    rw [fractionText, List.nil_append]
    unfold readFraction?
    split
    · next same =>
      rw [same] at head
      exact absurd rfl (head '.' rfl).2
    · rfl
  | some digits =>
    rw [fractionText, List.cons_append, readFraction?]
    simp only [readDigits?_append (wf.fraction digits fraction) fun c first => (head c first).1, Option.map_some]

theorem stops_fractionText : Stops isDigit (fractionText n.fraction ++ (powerText n.exponent ++ rest)) := by
  cases n.fraction with
  | none => exact fun c first => (head_powerText wf stops c first).1
  | some digits => exact stops_cons.mpr (by decide)

/-- A numeral is read as it is written, up to what ends it. -/
theorem readNumeral?_write : readNumeral? (n.write ++ rest) = some (n, rest) := by
  have wholeRead := readWhole?_append wf.whole wf.leading (stops_fractionText wf stops)
  have read : readBehindSign n.negative (n.whole ++ (fractionText n.fraction ++ (powerText n.exponent ++ rest))) =
      some (n, rest) := by
    simp only [readBehindSign, wholeRead, readFraction?_fractionText wf stops, readPower?_powerText wf stops,
      Option.bind_eq_bind, Option.bind_some, Option.pure_def]
  rw [write_eq, List.append_assoc, List.append_assoc, List.append_assoc]
  cases sign : n.negative with
  | true =>
    rw [sign] at read
    exact read
  | false =>
    obtain ⟨d, ds, cons⟩ := List.exists_cons_of_ne_nil wf.whole.1
    have digit : isDigit d = true := wf.whole.2 d (by simp [cons])
    rw [sign, cons] at read
    rw [cons, List.cons_append]
    exact (readNumeral?_cons (by rintro rfl; contradiction) _).trans read

end

/-- A numeral begins with a sign or a digit. -/
theorem exists_cons_write {n : Numeral} (wf : n.WellFormed) :
    ∃ c cs, n.write = c :: cs ∧ (c = '-' ∨ isDigit c = true) := by
  obtain ⟨d, ds, cons⟩ := List.exists_cons_of_ne_nil wf.whole.1
  rw [write_eq, cons]
  cases n.negative with
  | true => exact ⟨_, _, rfl, .inl rfl⟩
  | false => exact ⟨_, _, rfl, .inr (wf.whole.2 d (by simp [cons]))⟩

theorem wellFormed_ofNat (n : Nat) : (ofNat n).WellFormed where
  whole := areDigits_toDigits n
  leading := toDigits_eq_of_head_zero
  fraction := by simp [ofNat]
  mark := by simp [ofNat]
  sign := by simp [ofNat]
  power := by simp [ofNat]

theorem accumulate_eq {start : Nat} {cs : List Char} (fits : digitsValue start cs < uint64Bound) :
    accumulate start cs = (digitsValue start cs, []) := by
  induction cs generalizing start with
  | nil => rfl
  | cons c rest ih =>
    rw [digitsValue_cons] at fits
    have next : start * 10 + digitValue c < uint64Bound :=
      Nat.lt_of_le_of_lt (le_digitsValue _ rest) fits
    rw [accumulate, if_pos next, ih fits, digitsValue_cons]

/-- A number within 64 bits is the value of its own numeral. -/
theorem value?_ofNat {n : Nat} (fits : n < uint64Bound) : (ofNat n).value? = some (.natural n) := by
  have read : accumulate 0 (Nat.toDigits 10 n) = (n, []) := by
    have spelt := digitsValue_toDigits n
    rw [accumulate_eq (by rwa [spelt]), spelt]
  simp only [value?, ofNat, read]
  rfl

end Numeral

namespace Numeral

theorem areDigits_zero : AreDigits ['0'] :=
  areDigits_toDigits 0

/-- However a double is written, it is a numeral of the grammar. -/
theorem wellFormed_ofBinary64 (x : Binary64) : (ofBinary64 x).WellFormed := by
  simp only [ofBinary64]
  split
  · exact ⟨areDigits_zero, by simp, by simpa using areDigits_zero, by simp, by simp, by simp⟩
  next nonzero =>
    have digits : AreDigits x.shortest.digits := areDigits_toDigits _
    have point : x.shortest.point = x.shortest.exponent + x.shortest.digits.length := rfl
    obtain ⟨d, ds, cons⟩ := List.exists_cons_of_ne_nil digits.nonempty
    have first : d ≠ '0' := by
      have := head?_toDigits_ne_zero (Binary64.coefficient_shortest_ne_zero nonzero)
      rw [← Decimal.digits, cons] at this
      simpa using this
    split
    · -- zeros behind the digits
      refine ⟨digits.append fun c => isDigit_of_mem_zeros, ?_, by simpa using areDigits_zero, by simp, by simp, by simp⟩
      simp [cons, first]
    split
    · -- the point among the digits
      refine ⟨digits.take (by omega), ?_, ?_, by simp, by simp, by simp⟩
      · obtain ⟨count, same⟩ : ∃ count, x.shortest.point.toNat = count + 1 := ⟨x.shortest.point.toNat - 1, by omega⟩
        simp [cons, same, first]
      · simpa using digits.drop (by omega)
    split
    · -- zeros in front of the digits
      refine ⟨areDigits_zero, by simp, ?_, by simp, by simp, by simp⟩
      simpa using AreDigits.prepend (fun c => isDigit_of_mem_zeros) digits
    · refine ⟨digits.take (by decide), by simp [cons, first], ?_, by simp, ?_, by simpa using areDigits_toDigits _⟩
      · intro fraction member
        split at member
        · contradiction
        · cases member
          have := List.length_pos_iff.mpr digits.nonempty
          exact digits.drop (by omega)
      · rintro _ ⟨⟩ c ⟨⟩
        split
        · exact .inr rfl
        · exact .inl rfl

end Numeral
end CpuUsage
