import CpuUsage.Proofs.Instant
import CpuUsage.Usage.Spike
import Mathlib.Data.List.TakeWhile

/-! The last spike of a series. A run that is detected is the last maximal one, whatever the order of the samples; in a
series ordered by time its ends are right on the time line too, also where several samples share a time. -/
namespace CpuUsage

/-- The last run above the threshold, latest sample first. -/
def lastRun (threshold : Binary64) (samples : List UsageSample) : List UsageSample :=
  (samples.reverse.dropWhile fun s => !s.exceeds threshold).takeWhile (·.exceeds threshold)

namespace Spike

/-- Once there is a spike, it goes on through all samples that are above the threshold, up to one that is not. -/
theorem scan_some (threshold : Binary64) (spike : Spike) (samples : List UsageSample) :
    scan threshold (some spike) samples =
      some (((samples.takeWhile (·.exceeds threshold)).getLast?).elim spike fun s => { spike with start := s.time }) := by
  induction samples generalizing spike with
  | nil => rfl
  | cons s earlier ih =>
    cases above : s.exceeds threshold with
    | true => 
      rw [scan, if_pos above, ih, List.takeWhile_cons_of_pos above, List.getLast?_cons]
      cases (earlier.takeWhile (·.exceeds threshold)).getLast? <;> rfl
    | false => simp [scan, above]

/-- Before there is a spike, samples are passed over, up to one that is above the threshold. -/
theorem scan_none (threshold : Binary64) (samples : List UsageSample) :
    scan threshold none samples = scan threshold none (samples.dropWhile fun s => !s.exceeds threshold) := by
  induction samples with
  | nil => rfl
  | cons s earlier ih =>
    cases above : s.exceeds threshold with
    | true => rw [List.dropWhile_cons_of_neg (by simp [above])]
    | false =>
      rw [List.dropWhile_cons_of_pos (by simp [above]), ← ih]
      simp [scan, above]

/-- The search from the end finds the ends of the last run. -/
theorem detect_eq_lastRun (threshold : Binary64) (samples : List UsageSample) :
    detect threshold samples = do
      let latest ← (lastRun threshold samples).head?
      let earliest ← (lastRun threshold samples).getLast?
      return ⟨earliest.time, latest.time⟩ := by
  rw [detect, scan_none, lastRun]
  have stopped := List.head?_dropWhile_not (fun s => !UsageSample.exceeds threshold s) samples.reverse
  cases left : samples.reverse.dropWhile fun s => !s.exceeds threshold with
  | nil => rfl
  | cons s earlier =>
    have above : s.exceeds threshold = true := by simpa [left] using stopped
    rw [scan, if_pos above, scan_some, List.takeWhile_cons_of_pos above, List.getLast?_cons]
    cases (earlier.takeWhile (·.exceeds threshold)).getLast? <;> rfl

end Spike

/-- A last maximal run above the threshold, with what stands before and behind it. -/
structure LastRun (threshold : Binary64) (samples before run behind : List UsageSample) : Prop where
  split : samples = before ++ run ++ behind
  above : ∀ s ∈ run, threshold < s.value
  notAbove_before : ∀ s, before.getLast? = some s → ¬ threshold < s.value
  notAbove_behind : ∀ s ∈ behind, ¬ threshold < s.value

theorem lastRun_spec (threshold : Binary64) (samples : List UsageSample) :
    ∃ before behind, LastRun threshold samples before (lastRun threshold samples).reverse behind := by
  let quiet : UsageSample → Bool := fun s => !s.exceeds threshold
  let rest := samples.reverse.dropWhile quiet
  refine ⟨(rest.dropWhile (·.exceeds threshold)).reverse, (samples.reverse.takeWhile quiet).reverse, ?_, ?_, ?_, ?_⟩
  · rw [← List.reverse_append, lastRun, List.takeWhile_append_dropWhile, ← List.reverse_append,
      List.takeWhile_append_dropWhile, List.reverse_reverse]
  · intro s member
    have exceeds := List.mem_takeWhile_imp (p := UsageSample.exceeds threshold) (List.mem_reverse.mp member)
    exact of_decide_eq_true exceeds
  · intro s last
    rw [List.getLast?_reverse] at last
    have stopped := List.head?_dropWhile_not (·.exceeds threshold) rest
    rw [last] at stopped
    simpa [UsageSample.exceeds] using stopped
  · intro s member
    have isQuiet := List.mem_takeWhile_imp (List.mem_reverse.mp member)
    simpa [quiet, UsageSample.exceeds] using isQuiet

theorem lastRun_eq_nil_iff (threshold : Binary64) (samples : List UsageSample) :
    lastRun threshold samples = [] ↔ ∀ s ∈ samples, ¬ threshold < s.value := by
  let quiet : UsageSample → Bool := fun s => !s.exceeds threshold
  have noneLeft : lastRun threshold samples = [] ↔ samples.reverse.dropWhile quiet = [] := by
    have stopped := List.head?_dropWhile_not quiet samples.reverse
    rw [lastRun]
    cases left : samples.reverse.dropWhile quiet with
    | nil => simp
    | cons s rest =>
      rw [left] at stopped
      have exceeds : s.exceeds threshold = true := by simpa [quiet] using stopped
      simp [exceeds]
  rw [noneLeft, List.dropWhile_eq_nil_iff]
  simp [quiet, UsageSample.exceeds]

namespace Spike

/-- A spike on a time line of values: it begins and ends over the threshold, nothing is over it later, nothing in
between is not, and what is over it earlier is cut off by something that is not. -/
structure Latest (threshold : Binary64) (told : Instant → Binary64 → Prop) (spike : Spike) : Prop where
  ordered : spike.start ≤ spike.stop
  starts : ∃ v, told spike.start v ∧ threshold < v
  stops : ∃ v, told spike.stop v ∧ threshold < v
  latest : ∀ t v, told t v → threshold < v → t ≤ spike.stop
  unbroken : ∀ t v, told t v → spike.start < t → t < spike.stop → threshold < v
  cutOff : ∀ t v, told t v → threshold < v → t < spike.start →
    ∃ t' v', told t' v' ∧ ¬ threshold < v' ∧ t ≤ t' ∧ t' ≤ spike.start

theorem detect_isSome_iff (threshold : Binary64) (samples : List UsageSample) :
    (detect threshold samples).isSome ↔ ∃ s ∈ samples, threshold < s.value := by
  have found : (detect threshold samples).isSome ↔ lastRun threshold samples ≠ [] := by
    rw [detect_eq_lastRun]
    cases lastRun threshold samples with
    | nil => simp
    | cons latest rest => simp [List.getLast?_cons]
  rw [found, Ne, lastRun_eq_nil_iff]
  simp only [not_forall, not_not, exists_prop]

theorem detect_eq_some {threshold : Binary64} {samples : List UsageSample} {spike : Spike}
    (detected : detect threshold samples = some spike) :
    ∃ before run behind first last, LastRun threshold samples before run behind ∧ run.head? = some first ∧
      run.getLast? = some last ∧ spike = ⟨first.time, last.time⟩ := by
  obtain ⟨before, behind, isLastRun⟩ := lastRun_spec threshold samples
  simp only [detect_eq_lastRun, Option.bind_eq_bind, Option.bind_eq_some_iff, Option.pure_def, Option.some.injEq] at detected
  obtain ⟨latest, head, earliest, last, rfl⟩ := detected
  exact ⟨before, _, behind, earliest, latest, isLastRun, by rw [List.head?_reverse, last],
    by rw [List.getLast?_reverse, head], rfl⟩

theorem head_le {samples : List UsageSample} (chronological : samples.Pairwise fun a b => a.time ≤ b.time)
    {first : UsageSample} (head : samples.head? = some first) : ∀ s ∈ samples, first.time ≤ s.time := by
  obtain ⟨rest, rfl⟩ := List.head?_eq_some_iff.mp head
  obtain ⟨least, _⟩ := List.pairwise_cons.mp chronological
  exact List.forall_mem_cons.mpr ⟨le_refl _, least⟩

theorem le_getLast {samples : List UsageSample} (chronological : samples.Pairwise fun a b => a.time ≤ b.time)
    {last : UsageSample} (getLast : samples.getLast? = some last) : ∀ s ∈ samples, s.time ≤ last.time := by
  obtain ⟨earlier, rfl⟩ := List.getLast?_eq_some_iff.mp getLast
  obtain ⟨_, _, greatest⟩ := List.pairwise_append.mp chronological
  intro s member
  rcases List.mem_append.mp member with isEarlier | isLast
  · exact greatest s isEarlier last (List.mem_singleton_self last)
  · exact le_of_eq (by rw [List.mem_singleton.mp isLast])

theorem detect_latest {threshold : Binary64} {samples : List UsageSample} {spike : Spike}
    (chronological : samples.Pairwise fun a b => a.time ≤ b.time) (detected : detect threshold samples = some spike) :
    Latest threshold (fun t v => ∃ s ∈ samples, s.time = t ∧ s.value = v) spike := by
  obtain ⟨before, run, behind, first, last, ⟨rfl, above, notAbove_before, notAbove_behind⟩, head, getLast, rfl⟩ :=
    detect_eq_some detected
  have firstIn := List.mem_of_head? head
  have lastIn := List.mem_of_getLast? getLast
  obtain ⟨chronological, _, behindLater⟩ := List.pairwise_append.mp chronological
  obtain ⟨beforeChronological, runChronological, beforeEarlier⟩ := List.pairwise_append.mp chronological
  have afterFirst : ∀ s ∈ run, first.time ≤ s.time := head_le runChronological head
  have upToLast : ∀ s ∈ run, s.time ≤ last.time := le_getLast runChronological getLast
  constructor
  · exact afterFirst last lastIn
  · exact ⟨first.value, ⟨first, by simp [firstIn], rfl, rfl⟩, above first firstIn⟩
  · exact ⟨last.value, ⟨last, by simp [lastIn], rfl, rfl⟩, above last lastIn⟩
  · rintro _ _ ⟨s, member, rfl, rfl⟩ exceeds
    simp only [List.mem_append] at member
    rcases member with (isBefore | isRun) | isBehind
    · exact beforeEarlier s isBefore last lastIn
    · exact upToLast s isRun
    · exact absurd exceeds (notAbove_behind s isBehind)
  · rintro _ _ ⟨s, member, rfl, rfl⟩ afterStart beforeStop
    simp only [List.mem_append] at member
    rcases member with (isBefore | isRun) | isBehind
    · exact absurd afterStart (not_lt_of_ge (beforeEarlier s isBefore first firstIn))
    · exact above s isRun
    · exact absurd beforeStop (not_lt_of_ge (behindLater last (by simp [lastIn]) s isBehind))
  · rintro _ _ ⟨s, member, rfl, rfl⟩ exceeds beforeStart
    simp only [List.mem_append] at member
    rcases member with (isBefore | isRun) | isBehind
    · obtain ⟨cut, isLast⟩ := Option.isSome_iff_exists.mp (List.getLast?_isSome.mpr (List.ne_nil_of_mem isBefore))
      have cutIn := List.mem_of_getLast? isLast
      exact ⟨cut.time, cut.value, ⟨cut, by simp [cutIn], rfl, rfl⟩, notAbove_before cut isLast,
        le_getLast beforeChronological isLast s isBefore, beforeEarlier cut cutIn first firstIn⟩
    · exact absurd beforeStart (not_lt_of_ge (afterFirst s isRun))
    · exact absurd exceeds (notAbove_behind s isBehind)

end Spike
end CpuUsage
