import CpuUsage.Proofs.Usage.Spike
import Mathlib.Order.Bounds.Basic

/-! The last run by place. The spike that is detected reaches from the least to the greatest place of the last maximal
run, in a series of any order. A maximal run stands behind a sample that is not above the threshold, or at the very
beginning, so nothing before that sample counts. -/
namespace CpuUsage

theorem Binary64.not_lt_of_isNaN {x y : Binary64} (none : y.isNaN = true) : ¬ x < y := by
  rintro ⟨_, number, _⟩
  rw [none] at number
  contradiction

/-- The sample in this place is strictly above the threshold. -/
def AboveAt (threshold : Binary64) (samples : List UsageSample) (i : Nat) : Prop :=
  ∃ s, samples[i]? = some s ∧ threshold < s.value

namespace LastRun
variable {threshold : Binary64} {samples before run behind : List UsageSample}

/-- There is one last run, and it is the one that a search from the end finds. -/
theorem lastRun_eq (h : LastRun threshold samples before run behind) (nonempty : run ≠ []) :
    lastRun threshold samples = run.reverse := by
  obtain ⟨rfl, above, notAbove_before, notAbove_behind⟩ := h
  let exceeds : UsageSample → Bool := (·.exceeds threshold)
  let quiet : UsageSample → Bool := fun s => !s.exceeds threshold
  have runExceeds : ∀ s ∈ run.reverse, exceeds s = true := fun s member =>
    decide_eq_true (above s (List.mem_reverse.mp member))
  have behindQuiet : ∀ s ∈ behind.reverse, quiet s = true := fun s member => by
    simp [quiet, UsageSample.exceeds, notAbove_behind s (List.mem_reverse.mp member)]
  have found : (before ++ run ++ behind).reverse.dropWhile quiet = run.reverse ++ before.reverse := by
    rw [List.reverse_append, List.reverse_append, List.dropWhile_append_of_pos behindQuiet]
    obtain ⟨s, rest, cons⟩ := List.exists_cons_of_ne_nil (mt List.reverse_eq_nil_iff.mp nonempty)
    have loud : quiet s = false := by simp [quiet, show s.exceeds threshold = true from runExceeds s (by simp [cons])]
    rw [cons, List.cons_append, List.dropWhile_cons_of_neg (by simp [loud])]
  have stopped : before.reverse.takeWhile exceeds = [] := by
    cases cut : before.reverse with
    | nil => rfl
    | cons s rest =>
      have last : before.getLast? = some s := by rw [← List.head?_reverse, cut]; rfl
      have notExceeds : exceeds s = false := decide_eq_false (notAbove_before s last)
      rw [List.takeWhile_cons_of_neg (by simp [notExceeds])]
  change ((before ++ run ++ behind).reverse.dropWhile quiet).takeWhile exceeds = run.reverse
  rw [found, List.takeWhile_append_of_pos runExceeds, stopped, List.append_nil]

theorem detect_eq (h : LastRun threshold samples before run behind) {first last : UsageSample}
    (head : run.head? = some first) (getLast : run.getLast? = some last) :
    Spike.detect threshold samples = some ⟨first.time, last.time⟩ := by
  have nonempty : run ≠ [] := by
    rintro rfl
    contradiction
  simp only [Spike.detect_eq_lastRun, h.lastRun_eq nonempty, List.head?_reverse, List.getLast?_reverse, head, getLast]
  rfl

theorem aboveAt_of_run (h : LastRun threshold samples before run behind) {i : Nat} (start : before.length ≤ i)
    (stop : i < before.length + run.length) : AboveAt threshold samples i := by
  have place : i - before.length < run.length := by omega
  refine ⟨run[i - before.length], ?_, h.above _ (List.getElem_mem place)⟩
  rw [h.split, List.append_assoc, List.getElem?_append_right start, List.getElem?_append_left place,
    List.getElem?_eq_getElem place]

theorem lt_of_aboveAt (h : LastRun threshold samples before run behind) {i : Nat}
    (above : AboveAt threshold samples i) : i < before.length + run.length := by
  by_contra later
  obtain ⟨s, place, exceeds⟩ := above
  rw [h.split, List.getElem?_append_right (by simpa using later)] at place
  exact h.notAbove_behind s (List.mem_of_getElem? place) exceeds

theorem isGreatest (h : LastRun threshold samples before run behind) (nonempty : run ≠ []) :
    IsGreatest {i | AboveAt threshold samples i} (before.length + run.length - 1) := by
  have := List.length_pos_iff.mpr nonempty
  constructor
  · exact h.aboveAt_of_run (by omega) (by omega)
  · intro i above
    have := h.lt_of_aboveAt above
    omega

/-- A run that began earlier would go through the sample in front of this one. -/
theorem isLeast (h : LastRun threshold samples before run behind) (nonempty : run ≠ []) :
    IsLeast {i | ∀ j, i ≤ j → j ≤ before.length + run.length - 1 → AboveAt threshold samples j} before.length := by
  have := List.length_pos_iff.mpr nonempty
  constructor
  · intro j start stop
    exact h.aboveAt_of_run start (by omega)
  · intro i unbroken
    by_contra earlier
    obtain ⟨s, place, exceeds⟩ := unbroken (before.length - 1) (by omega) (by omega)
    rw [h.split, List.append_assoc, List.getElem?_append_left (by omega), ← List.getLast?_eq_getElem?] at place
    exact h.notAbove_before s place exceeds

/-- What stands before the sample in front of the run can be put in any other's place. -/
theorem replace (h : LastRun threshold samples before run behind) {earlier later : List UsageSample}
    (split : samples = earlier ++ later) (short : earlier.length < before.length) (other : List UsageSample) :
    ∃ between, LastRun threshold (other ++ later) (other ++ between) run behind := by
  have whole := h.split.symm.trans split
  rw [List.append_assoc] at whole
  rcases List.append_eq_append_iff.mp whole with ⟨_, rfl, _⟩ | ⟨between, rfl, rfl⟩
  · rw [List.length_append] at short
    omega
  · obtain ⟨cut, isLast⟩ : ∃ cut, between.getLast? = some cut := by
      apply Option.isSome_iff_exists.mp
      apply List.getLast?_isSome.mpr
      rintro rfl
      simp at short
    have last_eq (front : List UsageSample) : (front ++ between).getLast? = some cut := by
      rw [List.getLast?_append, isLast, Option.some_or]
    refine ⟨between, by simp only [List.append_assoc], h.above, ?_, h.notAbove_behind⟩
    intro s last
    rw [last_eq other, ← last_eq earlier] at last
    exact h.notAbove_before s last

end LastRun

namespace Spike

/-- Nothing is detected exactly where no sample is above the threshold, and a value that is no number is above none. Else
the spike reaches over the last maximal run, from the least of its places to the greatest. What stands before the sample
in front of the run does not count, and in a series ordered by time a spike does not end before it begins. -/
theorem detect_exact (threshold : Binary64) (samples : List UsageSample) :
    (∀ v : Binary64, v.isNaN = true → ¬ threshold < v) ∧
    (detect threshold samples = none ↔ ∀ s ∈ samples, ¬ threshold < s.value) ∧
    ((∃ s ∈ samples, threshold < s.value) →
      ∃ first last earliest latest, IsGreatest {i | AboveAt threshold samples i} last ∧
        IsLeast {i | ∀ j, i ≤ j → j ≤ last → AboveAt threshold samples j} first ∧
        samples[first]? = some earliest ∧ samples[last]? = some latest ∧
        detect threshold samples = some ⟨earliest.time, latest.time⟩ ∧
        (∀ earlier later other, samples = earlier ++ later → earlier.length < first →
          detect threshold (other ++ later) = detect threshold samples) ∧
        ((samples.Pairwise fun a b => a.time ≤ b.time) → earliest.time ≤ latest.time)) := by
  refine ⟨fun v => Binary64.not_lt_of_isNaN, ?_, ?_⟩
  · rw [← Option.not_isSome_iff_eq_none, detect_isSome_iff]
    simp only [not_exists, not_and]
  · intro some
    obtain ⟨spike, detected⟩ := Option.isSome_iff_exists.mp ((detect_isSome_iff threshold samples).mpr some)
    obtain ⟨before, run, behind, first, last, isLastRun, head, getLast, rfl⟩ := detect_eq_some detected
    have nonempty : run ≠ [] := List.ne_nil_of_mem (List.mem_of_head? head)
    have length := List.length_pos_iff.mpr nonempty
    refine ⟨before.length, before.length + run.length - 1, first, last, isLastRun.isGreatest nonempty,
      isLastRun.isLeast nonempty, ?_, ?_, detected, ?_, ?_⟩
    · rw [isLastRun.split, List.append_assoc, List.getElem?_append_right (Nat.le_refl _), Nat.sub_self,
        List.getElem?_append_left length, ← List.head?_eq_getElem?, head]
    · have place : before.length + run.length - 1 - before.length = run.length - 1 := by omega
      rw [isLastRun.split, List.append_assoc, List.getElem?_append_right (by omega), place,
        List.getElem?_append_left (by omega), ← List.getLast?_eq_getElem?, getLast]
    · intro earlier later other split short
      obtain ⟨_, replaced⟩ := isLastRun.replace split short other
      rw [replaced.detect_eq head getLast, detected]
    · intro chronological
      exact (detect_latest chronological detected).ordered

end Spike
end CpuUsage
