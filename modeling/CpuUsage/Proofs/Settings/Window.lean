import CpuUsage.Proofs.Instant
import CpuUsage.Rfc3339
import CpuUsage.Settings.Basic

/-! The history window. It begins a whole number of days before it ends, and the settings are refused if that number is not
positive or the beginning is before the calendar. The limits of the machine words in which it is reckoned lie further out:
whatever does not fit a word is before the calendar as well, and what passes the checks never wraps around. -/
namespace CpuUsage

/-- The first instant of the calendar. -/
def Instant.earliest : Instant :=
  { epoch with
    seconds := minSeconds
    minSeconds_le := Int.le_refl minSeconds
    le_maxSeconds := by decide
    leap := by decide }

namespace Settings
open Instant (secondsPerDay)

/-- There is a history window that ends then: it has days, and it begins within the calendar. -/
structure SpansTo (s : Settings) (stop : Instant) : Prop where
  positive : 1 ≤ s.historyWindowDays
  begins : minSeconds ≤ stop.seconds - s.historyWindowDays * secondsPerDay

variable {s : Settings} {stop : Instant}

/-- A window within the calendar is far shorter than the longest span. -/
theorem historySeconds_of_spansTo (spans : s.SpansTo stop) :
    s.historySeconds = .ok (s.historyWindowDays * secondsPerDay) := by
  have positive := spans.positive
  have begins := spans.begins
  have ends := stop.le_maxSeconds
  simp only [minSeconds, maxSeconds, secondsPerDay] at begins ends
  have accepted : ¬ (s.historyWindowDays ≤ 0 ∨ maxSpanSeconds < s.historyWindowDays * 86400) := by
    simp only [maxSpanSeconds]
    omega
  rw [historySeconds, if_neg accepted]
  rfl

/-- The second of a minute, and so whether it can be a leap second, is the same on every day. -/
theorem exists_minusSeconds? (spans : s.SpansTo stop) :
    ∃ start, stop.minusSeconds? (s.historyWindowDays * secondsPerDay) = some start ∧
      start.seconds = stop.seconds - s.historyWindowDays * secondsPerDay ∧ start.nanos = stop.nanos := by
  have positive := spans.positive
  have parts : minSeconds ≤ stop.seconds - s.historyWindowDays * secondsPerDay ∧
      stop.seconds - s.historyWindowDays * secondsPerDay ≤ maxSeconds ∧ stop.nanos < 2 * nanosPerSecond ∧
      (nanosPerSecond ≤ stop.nanos → (stop.seconds - s.historyWindowDays * secondsPerDay) % 60 = 59) := by
    have ends := stop.le_maxSeconds
    have leap := stop.leap
    refine ⟨spans.begins, ?_, stop.nanos_lt, fun extra => ?_⟩
    · simp only [secondsPerDay]
      omega
    · have last := leap extra
      simp only [secondsPerDay]
      omega
  exact ⟨_, dif_pos parts, rfl, rfl⟩

theorem historyStart_of_spansTo (spans : s.SpansTo stop) :
    ∃ start, s.historyStart stop = .ok start ∧
      start.seconds = stop.seconds - s.historyWindowDays * secondsPerDay ∧ start.nanos = stop.nanos := by
  obtain ⟨start, begun, seconds, nanos⟩ := exists_minusSeconds? spans
  refine ⟨start, ?_, seconds, nanos⟩
  rw [historyStart, historySeconds_of_spansTo spans]
  change required _ (stop.minusSeconds? _) = .ok start
  rw [begun]
  rfl

theorem historyStart_of_not_spansTo (outside : ¬ s.SpansTo stop) :
    s.historyStart stop = .error (.settings (.invalidHistoryWindow s.historyWindowDays)) := by
  rw [historyStart, historySeconds]
  by_cases refused : s.historyWindowDays ≤ 0 ∨ maxSpanSeconds < s.historyWindowDays * 86400
  · rw [if_pos refused]
    rfl
  · rw [if_neg refused]
    have before : ¬ minSeconds ≤ stop.seconds - s.historyWindowDays * 86400 :=
      fun begins => outside ⟨by omega, begins⟩
    have none : stop.minusSeconds? (s.historyWindowDays * 86400) = none := dif_neg fun parts => before parts.1
    change required _ (stop.minusSeconds? _) = _
    rw [none]
    rfl

theorem historyStart_eq_ok_iff {start : Instant} :
    s.historyStart stop = .ok start ↔
      s.SpansTo stop ∧ start.seconds = stop.seconds - s.historyWindowDays * secondsPerDay ∧
        start.nanos = stop.nanos := by
  by_cases spans : s.SpansTo stop
  · obtain ⟨start', begun, seconds, nanos⟩ := historyStart_of_spansTo spans
    rw [begun]
    constructor
    · intro same
      cases same
      exact ⟨spans, seconds, nanos⟩
    · rintro ⟨_, seconds', nanos'⟩
      exact congrArg _ (Instant.ext_parts (seconds.trans seconds'.symm) (nanos.trans nanos'.symm))
  · rw [historyStart_of_not_spansTo spans]
    constructor
    · intro refused
      cases refused
    · exact fun spansTo => absurd spansTo.1 spans

end Settings

/-! Machine words. A product is checked, and a difference is taken as it comes. -/

/-- The product of two words, unless a word does not hold it. -/
def checkedMul? (a b : Int64) : Option Int64 :=
  if fitsInt64 (a.toInt * b.toInt) then some (a * b) else none

theorem toInt_of_checkedMul? {a b c : Int64} (product : checkedMul? a b = some c) : c.toInt = a.toInt * b.toInt := by
  rw [checkedMul?, Option.ite_none_right_eq_some] at product
  obtain ⟨fits, same⟩ := product
  simp only [fitsInt64, Bool.and_eq_true, decide_eq_true_eq] at fits
  rw [← Option.some.inj same, Int64.toInt_mul]
  exact Int.bmod_eq_of_le (by omega) (by omega)

namespace Settings
open Instant (secondsPerDay)

/-- The first second of a window that has so many days and ends then, in words. -/
def wordStart? (days : Int64) (stop : Instant) : Option Int64 :=
  if days ≤ 0 then none
  else do
    let seconds ← checkedMul? days 86400
    if .ofInt maxSpanSeconds < seconds then none
    else
      let start := .ofInt stop.seconds - seconds
      if .ofInt minSeconds ≤ start then some start else none

/-- Neither count of seconds is beyond the longest span, so a word holds their difference. -/
theorem toInt_ofInt_sub (stop : Instant) {seconds : Int64} (positive : 0 ≤ seconds.toInt)
    (span : seconds.toInt ≤ maxSpanSeconds) :
    (.ofInt stop.seconds - seconds : Int64).toInt = stop.seconds - seconds.toInt := by
  have begins := stop.minSeconds_le
  have ends := stop.le_maxSeconds
  simp only [minSeconds, maxSeconds, maxSpanSeconds] at begins ends span
  rw [Int64.toInt_sub, Int64.toInt_ofInt_of_le (by omega) (by omega)]
  exact Int.bmod_eq_of_le (by omega) (by omega)

theorem toInt_bounds : (.ofInt maxSpanSeconds : Int64).toInt = maxSpanSeconds ∧
    (.ofInt minSeconds : Int64).toInt = minSeconds ∧ (86400 : Int64).toInt = secondsPerDay := by
  decide

/-- A product that no word holds, or that is beyond the longest span, leads far in front of the calendar. -/
theorem wordStart?_eq_some_iff {days start : Int64} {stop : Instant} :
    wordStart? days stop = some start ↔
      (1 ≤ days.toInt ∧ minSeconds ≤ stop.seconds - days.toInt * secondsPerDay) ∧
        start.toInt = stop.seconds - days.toInt * secondsPerDay := by
  obtain ⟨maxSpan, first, day⟩ := toInt_bounds
  have ends := stop.le_maxSeconds
  rw [wordStart?]
  by_cases positive : days ≤ 0
  · rw [if_pos positive]
    rw [Int64.le_iff_toInt_le, Int64.toInt_zero] at positive
    simp only [reduceCtorEq, false_iff]
    omega
  · rw [if_neg positive]
    rw [Int64.le_iff_toInt_le, Int64.toInt_zero] at positive
    cases product : checkedMul? days 86400 with
    | none =>
      have overflow : ¬ fitsInt64 (days.toInt * (86400 : Int64).toInt) = true := by
        intro fits
        rw [checkedMul?, if_pos fits] at product
        contradiction
      rw [day] at overflow
      simp only [fitsInt64, Bool.and_eq_true, decide_eq_true_eq] at overflow
      simp only [secondsPerDay] at overflow
      simp only [Option.bind_eq_bind, Option.bind_none, reduceCtorEq, false_iff, minSeconds, maxSeconds,
        secondsPerDay] at ends ⊢
      omega
    | some seconds =>
      have exact := toInt_of_checkedMul? product
      rw [day] at exact
      simp only [Option.bind_eq_bind, Option.bind_some]
      by_cases span : .ofInt maxSpanSeconds < seconds
      · rw [if_pos span]
        rw [Int64.lt_iff_toInt_lt, maxSpan] at span
        simp only [reduceCtorEq, false_iff, minSeconds, maxSeconds, maxSpanSeconds] at ends span ⊢
        omega
      · rw [if_neg span]
        rw [Int64.lt_iff_toInt_lt, maxSpan] at span
        have positive : 0 ≤ seconds.toInt := by rw [exact, secondsPerDay]; omega
        have difference := toInt_ofInt_sub stop positive (by omega)
        rw [exact] at difference
        simp only [Option.ite_none_right_eq_some, Int64.le_iff_toInt_le, first, difference, Option.some.injEq,
          ← Int64.toInt_inj]
        omega

/-- Reckoned in words, the window begins when it does in numbers, or is refused when it is. -/
theorem wordStart?_eq {s : Settings} {days : Int64} (given : days.toInt = s.historyWindowDays) (stop : Instant) :
    wordStart? days stop = (s.historyStart stop).toOption.map fun start => .ofInt start.seconds := by
  by_cases spans : s.SpansTo stop
  · obtain ⟨start, begun, seconds, _⟩ := historyStart_of_spansTo spans
    have small : (.ofInt start.seconds : Int64).toInt = start.seconds := by
      have begins := start.minSeconds_le
      have ends := start.le_maxSeconds
      simp only [minSeconds, maxSeconds] at begins ends
      exact Int64.toInt_ofInt_of_le (by omega) (by omega)
    rw [begun]
    refine wordStart?_eq_some_iff.mpr ?_
    rw [given, small]
    exact ⟨⟨spans.positive, spans.begins⟩, seconds⟩
  · rw [historyStart_of_not_spansTo spans]
    refine Option.eq_none_iff_forall_ne_some.mpr fun start begun => ?_
    rw [wordStart?_eq_some_iff, given] at begun
    exact spans ⟨begun.1.1, begun.1.2⟩

end Settings
end CpuUsage
