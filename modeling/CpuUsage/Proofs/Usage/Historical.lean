import CpuUsage.Proofs.Instant
import CpuUsage.Proofs.SortedMap
import CpuUsage.Usage.Historical

/-! Historical usage slot by slot. What a slot has is its time line: every accepted point of every series that tells
of it, whichever series it stands in, earlier times first. -/
namespace CpuUsage

def Series.Tells (s : Series) (t : Instant) (v : Binary64) : Prop :=
  ∃ p ∈ s.points, readTime? p.time = some t ∧ p.value = v

theorem Series.mem_samplesOf {s : Series} {slot : InstanceId} {u : UsageSample} :
    u ∈ s.samplesOf slot ↔ u.slot = slot ∧ s.Tells u.time u.value := by
  simp only [samplesOf, List.mem_filterMap, Option.map_eq_some_iff, Tells]
  constructor
  · rintro ⟨p, member, time, readable, rfl⟩
    exact ⟨rfl, p, member, readable, rfl⟩
  · rintro ⟨rfl, p, member, readable, value⟩
    exact ⟨p, member, u.time, readable, by rw [value]⟩

/-- A series of a slot whose process some sample of the present names. -/
def Series.ActiveIn (s : Series) (present : List Sample) (slot : InstanceId) : Prop :=
  slotOf? s.labels = some slot ∧ ∃ process, processOf? s.labels = some process ∧
    ∃ x ∈ present, processOf? x.labels = some process

instance (s : Series) (present : List Sample) (slot : InstanceId) : Decidable (s.ActiveIn present slot) :=
  decidable_of_iff (slotOf? s.labels = some slot ∧
      ((processOf? s.labels).any fun process => present.any fun x => processOf? x.labels = some process) = true) <| by
    simp only [Series.ActiveIn, Option.any_eq_true, List.any_eq_true, decide_eq_true_eq]

namespace Usage

theorem mem_activeProcesses {present : List Sample} {process : String} :
    process ∈ activeProcesses present ↔ ∃ x ∈ present, processOf? x.labels = some process :=
  List.mem_filterMap

end Usage

theorem Series.usageOf?_eq_some {present : List Sample} {s : Series} {slot : InstanceId} {samples : List UsageSample} :
    s.usageOf? (Usage.activeProcesses present) = some (slot, samples) ↔
      s.ActiveIn present slot ∧ samples = s.samplesOf slot := by
  simp only [usageOf?, Option.bind_eq_bind, Option.bind_eq_some_iff, ActiveIn]
  constructor
  · rintro ⟨process, named, told⟩
    split at told
    · next isActive =>
      simp only [Option.bind_eq_some_iff, Option.pure_def, Option.some.injEq, Prod.mk.injEq] at told
      obtain ⟨_, label, rfl, rfl⟩ := told
      exact ⟨⟨label, process, named, Usage.mem_activeProcesses.mp isActive⟩, rfl⟩
    · contradiction
  · rintro ⟨⟨label, process, named, isActive⟩, rfl⟩
    exact ⟨process, named, by simp [Usage.mem_activeProcesses.mpr isActive, label]⟩

namespace Usage

/-- The points of a slot that count: at a readable time, in a series of the slot, of a process that is active. -/
def Accepted (present : List Sample) (series : List Series) (slot : InstanceId) (t : Instant) (v : Binary64) : Prop :=
  ∃ s ∈ series, s.ActiveIn present slot ∧ s.Tells t v

/-- The points of a slot that count, as they arrive: series after series, and in each of them point after point. -/
def arrived (present : List Sample) (series : List Series) (slot : InstanceId) : List UsageSample :=
  (series.filter fun s => s.ActiveIn present slot).flatMap fun s => s.samplesOf slot

theorem mem_arrived {present : List Sample} {series : List Series} {slot : InstanceId} {u : UsageSample} :
    u ∈ arrived present series slot ↔ u.slot = slot ∧ Accepted present series slot u.time u.value := by
  simp only [arrived, List.mem_flatMap, List.mem_filter, decide_eq_true_eq, Series.mem_samplesOf]
  constructor
  · rintro ⟨s, ⟨member, isActive⟩, same, tells⟩
    exact ⟨same, s, member, isActive, tells⟩
  · rintro ⟨same, s, member, isActive, tells⟩
    exact ⟨s, ⟨member, isActive⟩, same, tells⟩

/-- The samples that are found under a slot are those that arrive for it. -/
theorem flatMap_usageOf? (present : List Sample) (series : List Series) (slot : InstanceId) :
    ((series.filterMap (Series.usageOf? (activeProcesses present))).filter fun r => r.1 = slot).flatMap (·.2) =
      arrived present series slot := by
  simp only [arrived]
  induction series with
  | nil => rfl
  | cons s rest ih =>
    cases told : s.usageOf? (activeProcesses present) with
    | none =>
      have quiet : ¬ s.ActiveIn present slot := by
        intro isActive
        have := Series.usageOf?_eq_some.mpr ⟨isActive, rfl⟩
        rw [told] at this
        contradiction
      rw [List.filterMap_cons_none told, List.filter_cons_of_neg (by simpa using quiet), ih]
    | some found =>
      obtain ⟨slot', samples⟩ := found
      obtain ⟨isActive, rfl⟩ := Series.usageOf?_eq_some.mp told
      rw [List.filterMap_cons_some told]
      by_cases same : slot' = slot
      · subst same
        rw [List.filter_cons_of_pos (by simp), List.filter_cons_of_pos (by simpa using isActive), List.flatMap_cons,
          List.flatMap_cons, ih]
      · have quiet : ¬ s.ActiveIn present slot := fun other => same (Option.some.inj (isActive.1.symm.trans other.1))
        rw [List.filter_cons_of_neg (by simpa using same), List.filter_cons_of_neg (by simpa using quiet), ih]

theorem get?_ofSeries (present : List Sample) (series : List Series) (slot : InstanceId) :
    (ofSeries (activeProcesses present) series).get? slot =
      if arrived present series slot = [] then none
      else some ((arrived present series slot).mergeSort fun a b => a.time ≤ b.time) := by
  rw [ofSeries, SortedMap.get?_mapValues, SortedMap.get?_filter, SortedMap.get?_gathered Prod.fst Prod.snd,
    flatMap_usageOf?]
  split
  · by_cases quiet : arrived present series slot = [] <;> simp [quiet]
  · next absent =>
    have quiet : arrived present series slot = [] := by
      push Not at absent
      rw [← flatMap_usageOf?]
      simp only [List.flatMap_eq_nil_iff, List.mem_filter, decide_eq_true_eq]
      rintro r ⟨member, same⟩
      exact absurd same (absent r member)
    simp [quiet]

theorem time_le_trans (a b c : UsageSample) (first : decide (a.time ≤ b.time) = true)
    (second : decide (b.time ≤ c.time) = true) : decide (a.time ≤ c.time) = true :=
  decide_eq_true (le_trans (of_decide_eq_true first) (of_decide_eq_true second))

theorem time_le_total (a b : UsageSample) : (decide (a.time ≤ b.time) || decide (b.time ≤ a.time)) = true := by
  simp only [Bool.or_eq_true, decide_eq_true_eq]
  exact le_total a.time b.time

theorem mergeSort_time_pairwise (samples : List UsageSample) :
    (samples.mergeSort fun a b => a.time ≤ b.time).Pairwise fun a b => a.time ≤ b.time :=
  (List.pairwise_mergeSort time_le_trans time_le_total samples).imp of_decide_eq_true

/-- The samples of a slot, all of them and nothing else, in the order of their times. -/
structure Timeline (told : Instant → Binary64 → Prop) (samples : List UsageSample) : Prop where
  nonempty : samples ≠ []
  chronological : samples.Pairwise fun a b => a.time ≤ b.time
  complete : ∀ t v, (∃ u ∈ samples, u.time = t ∧ u.value = v) ↔ told t v

theorem timeline_of_get? {present : List Sample} {series : List Series} {slot : InstanceId}
    {samples : List UsageSample} (held : (ofSeries (activeProcesses present) series).get? slot = some samples) :
    Timeline (Accepted present series slot) samples := by
  rw [get?_ofSeries] at held
  split at held
  · contradiction
  · next nonempty =>
    cases held
    constructor
    · intro empty
      have sorted := List.mergeSort_perm (arrived present series slot) fun a b => a.time ≤ b.time
      rw [empty] at sorted
      exact nonempty (List.nil_perm.mp sorted)
    · exact mergeSort_time_pairwise _
    · intro t v
      simp only [List.mem_mergeSort, mem_arrived]
      constructor
      · rintro ⟨u, ⟨_, accepted⟩, rfl, rfl⟩
        exact accepted
      · intro accepted
        exact ⟨⟨slot, t, v⟩, ⟨rfl, accepted⟩, rfl, rfl⟩

theorem not_accepted_of_get? {present : List Sample} {series : List Series} {slot : InstanceId}
    (absent : (ofSeries (activeProcesses present) series).get? slot = none) (t : Instant) (v : Binary64) :
    ¬ Accepted present series slot t v := by
  rw [get?_ofSeries] at absent
  split at absent
  · next quiet =>
    intro accepted
    have member : (⟨slot, t, v⟩ : UsageSample) ∈ arrived present series slot := mem_arrived.mpr ⟨rfl, accepted⟩
    rw [quiet] at member
    contradiction
  · contradiction

end Usage
end CpuUsage
