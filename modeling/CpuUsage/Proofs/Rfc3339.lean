import CpuUsage.Rfc3339
import CpuUsage.Proofs.Calendar
import CpuUsage.Proofs.Text.Digits

/-! A time is read back from its text: each part of the text is read by its reader and the rest is left, and the parts
together are those of the calendar. -/
namespace CpuUsage

theorem areDigits_padded (width n : Nat) : AreDigits (padded width n) :=
  AreDigits.prepend (fun _ => isDigit_of_mem_zeros) (areDigits_toDigits n)

theorem digitsValue_padded (width n : Nat) : digitsValue 0 (padded width n) = n := by
  rw [padded, digitsValue_zeros, digitsValue_toDigits]

theorem length_padded {width n : Nat} (room : 0 < width) (fits : n < 10 ^ width) : (padded width n).length = width := by
  have short : (Nat.toDigits 10 n).length ≤ width := (Nat.length_toDigits_le_iff (by decide) room).mpr fits
  rw [padded, List.length_append, List.length_replicate]
  omega

theorem isBlank_of_isDigit {c : Char} (digit : isDigit c = true) : isBlank c = false := by
  have range := toNat_of_isDigit digit
  simp only [isBlank, Bool.or_eq_false_iff, Bool.and_eq_false_iff, decide_eq_false_iff_not]
  omega

theorem dropBlanks_cons {c : Char} (plain : isBlank c = false) (cs : List Char) : dropBlanks (c :: cs) = c :: cs := by
  simp [dropBlanks, plain]

theorem dropBlanks_digits {digits : List Char} (areDigits : AreDigits digits) (rest : List Char) :
    dropBlanks (digits ++ rest) = digits ++ rest := by
  obtain ⟨d, ds, rfl⟩ := List.exists_cons_of_ne_nil areDigits.nonempty
  exact dropBlanks_cons (isBlank_of_isDigit (areDigits.all d List.mem_cons_self)) _

namespace Instant
variable {rest : List Char}

theorem readField?_padded (width : Nat) {n : Nat} (room : 0 < width) (fits : n < 10 ^ width)
    (stops : Stops isDigit rest) :
    readField? width (padded width n ++ rest) = some (n, rest) := by
  have digits := areDigits_padded width n
  have run := takeWhile_append_of_stops digits.all stops
  have length := length_padded room fits
  have whole : (padded width n).take width = padded width n := List.take_of_length_le (by omega)
  simp only [readField?, dropBlanks_digits digits, run, whole, if_neg digits.nonempty, digitsValue_padded,
    List.drop_left]

theorem readMark?_cons {mark : Char} (plain : isBlank mark = false) : readMark? mark (mark :: rest) = some rest := by
  rw [readMark?, dropBlanks_cons plain]
  exact if_pos rfl

theorem readSignedDigits_append {digits : List Char} (areDigits : AreDigits digits) (stops : Stops isDigit rest) :
    readYear?.readSignedDigits (digits ++ rest) = some (digitsValue 0 digits, rest) := by
  simp only [readYear?.readSignedDigits, takeWhile_append_of_stops areDigits.all stops,
    dropWhile_append_of_stops areDigits.all stops, if_neg areDigits.nonempty]

theorem readYear?_cons {d : Char} (digit : isDigit d = true) (cs : List Char) :
    readYear? (d :: cs) = (readField? 4 (d :: cs)).map fun (n, rest) => ((n : Int), rest) := by
  rw [readYear?, dropBlanks_cons (isBlank_of_isDigit digit)]
  split
  · next same =>
    cases same
    contradiction
  · next same =>
    cases same
    contradiction
  · rfl

theorem readYear?_yearText (year : Int) (stops : Stops isDigit rest) :
    readYear? (yearText year ++ rest) = some (year, rest) := by
  have signed := readSignedDigits_append (areDigits_padded 4 year.natAbs) stops
  rw [digitsValue_padded] at signed
  by_cases plain : 0 ≤ year ∧ year ≤ 9999
  · obtain ⟨n, rfl⟩ := Int.eq_ofNat_of_zero_le plain.1
    have field := readField?_padded 4 (by decide) (n := n) (by omega) stops
    have digits := areDigits_padded 4 n
    obtain ⟨d, ds, cons⟩ := List.exists_cons_of_ne_nil digits.nonempty
    have digit : isDigit d = true := digits.all d (by simp [cons])
    rw [cons, List.cons_append] at field
    rw [yearText, if_pos plain, Int.toNat_natCast, cons, List.cons_append, readYear?_cons digit, field, Option.map_some]
  · rw [yearText, if_neg plain]
    by_cases negative : year < 0
    · rw [if_pos negative, List.cons_append, readYear?, dropBlanks_cons (by decide)]
      change (readYear?.readSignedDigits _).bind _ = _
      rw [signed]
      exact congrArg (fun year => some (year, rest)) (by omega)
    · rw [if_neg negative, List.cons_append, readYear?, dropBlanks_cons (by decide)]
      change (readYear?.readSignedDigits _).bind _ = _
      rw [signed]
      exact congrArg (fun year => some (year, rest)) (by omega)

theorem readNanos?_padded (width : Nat) {n : Nat} (room : 0 < width) (most : width ≤ 9) (fits : n < 10 ^ width)
    (stops : Stops isDigit rest) :
    readNanos? ('.' :: (padded width n ++ rest)) = some (n * Nat.pow 10 (9 - width), rest) := by
  have digits := areDigits_padded width n
  have length := length_padded room fits
  have whole : (padded width n).take 9 = padded width n := List.take_of_length_le (by omega)
  simp only [readNanos?, takeWhile_append_of_stops digits.all stops, dropWhile_append_of_stops digits.all stops, whole,
    if_neg digits.nonempty, digitsValue_padded, length]

theorem readNanos?_fractionText (t : Instant) :
    readNanos? (t.fractionText ++ ['Z']) = some (t.nanos % nanosPerSecond, ['Z']) := by
  have stops : Stops isDigit ['Z'] := stops_cons.mpr (by decide)
  have bound : t.nanos % nanosPerSecond < 1000000000 := Nat.mod_lt _ (by decide)
  simp only [fractionText]
  generalize t.nanos % nanosPerSecond = n at bound ⊢
  split
  · next none =>
    rw [none]
    rfl
  split
  · next thousands =>
    have read := readNanos?_padded 3 (by decide) (by decide) (n := n / 1000000) (by omega) stops
    have whole : n / 1000000 * Nat.pow 10 (9 - 3) = n := Nat.div_mul_cancel (Nat.dvd_of_mod_eq_zero thousands)
    rw [List.cons_append, read, whole]
  split
  · next thousands =>
    have read := readNanos?_padded 6 (by decide) (by decide) (n := n / 1000) (by omega) stops
    have whole : n / 1000 * Nat.pow 10 (9 - 6) = n := Nat.div_mul_cancel (Nat.dvd_of_mod_eq_zero thousands)
    rw [List.cons_append, read, whole]
  · have read := readNanos?_padded 9 (by decide) (by decide) (n := n) (by omega) stops
    rw [List.cons_append, read]
    exact congrArg (fun n => some (n, ['Z'])) (Nat.mul_one n)

theorem stops_fractionText (t : Instant) : Stops isDigit (t.fractionText ++ ['Z']) := by
  simp only [fractionText]
  split
  · exact stops_cons.mpr (by decide)
  split
  · exact stops_cons.mpr (by decide)
  split
  · exact stops_cons.mpr (by decide)
  · exact stops_cons.mpr (by decide)

/-- The second of the time of day, one more in a leap second. -/
def second (t : Instant) : Nat :=
  (t.seconds % secondsPerDay).toNat % 60 + t.nanos / nanosPerSecond

/-- A leap second is written as second 60, and no other is. -/
theorem second_cases (t : Instant) :
    (t.second = 60 ∧ (t.seconds % secondsPerDay).toNat % 60 = 59 ∧ t.nanos % nanosPerSecond + nanosPerSecond = t.nanos) ∨
      (t.second = (t.seconds % secondsPerDay).toNat % 60 ∧ t.nanos % nanosPerSecond = t.nanos) := by
  have bound := t.nanos_lt
  have leap := t.leap
  simp only [second, secondsPerDay, nanosPerSecond] at bound leap ⊢
  by_cases late : 1000000000 ≤ t.nanos
  · have := leap late
    omega
  · omega

theorem second_le (t : Instant) : t.second ≤ 60 := by
  rcases t.second_cases with ⟨same, _⟩ | ⟨same, _⟩
  · omega
  · omega

/-- What hour, minute and second add up to, a leap second being the one before it. -/
def clock (t : Instant) : Int :=
  ((t.seconds % secondsPerDay).toNat / 3600 : Nat) * 3600 + ((t.seconds % secondsPerDay).toNat / 60 % 60 : Nat) * 60 +
    (if t.second = 60 then 59 else t.second : Nat)

theorem clock_eq (t : Instant) : t.clock = t.seconds % secondsPerDay := by
  rw [clock]
  have positive : 0 ≤ t.seconds % (secondsPerDay : Int) := Int.emod_nonneg _ (by decide)
  rcases t.second_cases with ⟨same, last, _⟩ | ⟨same, _⟩
  · rw [if_pos same]
    omega
  · rw [if_neg (by omega), same]
    omega

theorem nanos_eq (t : Instant) :
    (if t.second = 60 then t.nanos % nanosPerSecond + nanosPerSecond else t.nanos % nanosPerSecond) = t.nanos := by
  rcases t.second_cases with ⟨same, _, nanos⟩ | ⟨same, nanos⟩
  · rw [if_pos same, nanos]
  · rw [if_neg (by omega), nanos]

theorem ofParts?_self (t : Instant) : ofParts? t.seconds t.nanos = some t :=
  dif_pos ⟨t.minSeconds_le, t.le_maxSeconds, t.nanos_lt, t.leap⟩

theorem toList_rfc3339 (t : Instant) :
    t.rfc3339.toList = yearText t.date.year ++ '-' :: (padded 2 t.date.month ++ '-' :: (padded 2 t.date.day ++
      'T' :: (padded 2 ((t.seconds % secondsPerDay).toNat / 3600) ++
        ':' :: (padded 2 ((t.seconds % secondsPerDay).toNat / 60 % 60) ++
          ':' :: (padded 2 t.second ++ (t.fractionText ++ ['Z'])))))) := by
  simp only [rfc3339, Date.text, clockText, second, String.toList_ofList, List.append_assoc, List.cons_append]

theorem bind_of_eq_some {o : Option α} {f : α → Option β} {a : α} {b : Option β} (told : o = some a) (next : f a = b) :
    o >>= f = b := by
  rw [told]
  exact next

/-- A time is read back from its text. -/
theorem readRfc3339?_rfc3339 (t : Instant) : readRfc3339? t.rfc3339 = some t := by
  have valid : t.date.isValid = true := Date.isValid_ofDays _
  have fields := valid
  simp only [Date.isValid, Bool.and_eq_true, decide_eq_true_eq] at fields
  have lastDay := Date.daysInMonth_le t.date.year t.date.month
  have bound : t.seconds % secondsPerDay < 86400 := Int.emod_lt_of_pos _ (by decide)
  have second := t.second_le
  have inRange : ¬ ((!t.date.isValid || decide (23 < (t.seconds % secondsPerDay).toNat / 3600) ||
      decide (59 < (t.seconds % secondsPerDay).toNat / 60 % 60) || decide (60 < t.second)) = true) := by
    simp only [Bool.or_eq_true, Bool.not_eq_true', decide_eq_true_eq, valid, Bool.true_eq_false, false_or]
    omega
  have day : t.date.toDays * secondsPerDay + t.seconds % secondsPerDay = t.seconds := by
    rw [date, Date.toDays_ofDays, Int.mul_comm, Int.mul_ediv_add_emod]
  have wall : ofParts? (t.date.toDays * secondsPerDay + t.clock)
      (if t.second = 60 then t.nanos % nanosPerSecond + nanosPerSecond else t.nanos % nanosPerSecond) = some t := by
    rw [clock_eq, nanos_eq, day, ofParts?_self]
  have offset : readOffset? (dropBlanks ['Z']) = some (0, []) := by decide
  have ends (c : Char) (other : isDigit c = false) (cs : List Char) : Stops isDigit (c :: cs) := stops_cons.mpr other
  rw [readRfc3339?, toList_rfc3339]
  refine bind_of_eq_some (readYear?_yearText _ (ends _ (by decide) _)) ?_
  refine bind_of_eq_some (readMark?_cons (by decide)) ?_
  refine bind_of_eq_some (readField?_padded 2 (by decide) (by omega) (ends _ (by decide) _)) ?_
  refine bind_of_eq_some (readMark?_cons (by decide)) ?_
  refine bind_of_eq_some (readField?_padded 2 (by decide) (by omega) (ends _ (by decide) _)) ?_
  refine bind_of_eq_some rfl ?_
  refine bind_of_eq_some (readField?_padded 2 (by decide) (by omega) (ends _ (by decide) _)) ?_
  refine bind_of_eq_some (readMark?_cons (by decide)) ?_
  refine bind_of_eq_some (readField?_padded 2 (by decide) (by omega) (ends _ (by decide) _)) ?_
  refine bind_of_eq_some (readMark?_cons (by decide)) ?_
  refine bind_of_eq_some (readField?_padded 2 (by decide) (by omega) (stops_fractionText t)) ?_
  refine bind_of_eq_some (readNanos?_fractionText t) ?_
  refine bind_of_eq_some offset ?_
  refine (if_neg (by decide)).trans ((if_neg inRange).trans ((if_neg (by decide)).trans ?_))
  refine bind_of_eq_some wall ?_
  rw [Int.sub_zero, nanos_eq, ofParts?_self]

end Instant
end CpuUsage
