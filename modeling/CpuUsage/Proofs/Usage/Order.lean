import CpuUsage.Proofs.Correspondence
import CpuUsage.Proofs.Usage.Fetch
import CpuUsage.Proofs.Usage.Historical

/-! The order in which a store lists what it tells. Of several samples of one slot the first counts, and points of one
time stay as they come; where no slot is told of twice and no time twice in a slot, the order makes no difference to any
way of finding usage. -/
namespace CpuUsage
open Session

namespace Usage

theorem exists_find?_slot {us : List UsageSample} {u : UsageSample} (member : u ∈ us) :
    ∃ first, (us.find? fun v => v.slot = u.slot) = some first := by
  rw [← Option.isSome_iff_exists, List.find?_isSome]
  exact ⟨u, member, decide_eq_true rfl⟩

theorem mem_of_find?_slot {us : List UsageSample} {slot : InstanceId} {first : UsageSample}
    (found : (us.find? fun v => v.slot = slot) = some first) : first ∈ us ∧ first.slot = slot := by
  refine ⟨List.mem_of_find?_eq_some found, ?_⟩
  simpa only [decide_eq_true_eq] using List.find?_some found

theorem find?_slot_eq_some_iff {us : List UsageSample} (once : (us.map (·.slot)).Nodup) {slot : InstanceId}
    {u : UsageSample} : (us.find? fun v => v.slot = slot) = some u ↔ u ∈ us ∧ u.slot = slot := by
  constructor
  · exact mem_of_find?_slot
  · rintro ⟨member, rfl⟩
    obtain ⟨first, found⟩ := exists_find?_slot member
    obtain ⟨firstMember, same⟩ := mem_of_find?_slot found
    rw [found, List.inj_on_of_nodup_map once firstMember member same]

/-- Of the samples that are accepted, no two tell of one slot. -/
def OncePerSlot (accept : Sample → Option UsageSample) (samples : List Sample) : Prop :=
  ((samples.filterMap accept).map (·.slot)).Nodup

theorem ofSamples_eq_of_perm {accept : Sample → Option UsageSample} {samples samples' : List Sample}
    (reordered : samples.Perm samples') (once : OncePerSlot accept samples) :
    ofSamples accept samples = ofSamples accept samples' := by
  have accepted := reordered.filterMap accept
  have once' : OncePerSlot accept samples' := (accepted.map _).nodup_iff.mp once
  apply SortedMap.ext_get?
  intro slot
  rw [get?_ofSamples, get?_ofSamples]
  congr 1
  apply Option.ext
  intro u
  rw [find?_slot_eq_some_iff once, find?_slot_eq_some_iff once', accepted.mem_iff]

end Usage

namespace Series

/-- The same series in another order, each with its points in another order. -/
def Reordered (series series' : List Series) : Prop :=
  ∃ between, series.Perm between ∧
    List.Forall₂ (fun s s' => s.labels = s'.labels ∧ s.points.Perm s'.points) between series'

theorem samplesOf_perm {s s' : Series} (points : s.points.Perm s'.points) (slot : InstanceId) :
    (s.samplesOf slot).Perm (s'.samplesOf slot) :=
  points.filterMap _

theorem activeIn_congr {present present' : List Sample} (reordered : present.Perm present') {s s' : Series}
    (labels : s.labels = s'.labels) (slot : InstanceId) : s.ActiveIn present slot ↔ s'.ActiveIn present' slot := by
  simp only [ActiveIn, labels, reordered.mem_iff]

end Series

namespace Usage

theorem arrived_cons (present : List Sample) (s : Series) (rest : List Series) (slot : InstanceId) :
    arrived present (s :: rest) slot =
      (if s.ActiveIn present slot then s.samplesOf slot else []) ++ arrived present rest slot := by
  by_cases isActive : s.ActiveIn present slot <;> simp [arrived, isActive]

theorem arrived_perm {present present' : List Sample} (presentReordered : present.Perm present')
    {series series' : List Series} (reordered : Series.Reordered series series') (slot : InstanceId) :
    (arrived present series slot).Perm (arrived present' series' slot) := by
  obtain ⟨between, moved, within⟩ := reordered
  refine ((moved.filter _).flatMap_right _).trans ?_
  change (arrived present between slot).Perm _
  clear moved
  induction within with
  | nil => exact .refl _
  | @cons s s' _ _ alike _ ih =>
    obtain ⟨labels, points⟩ := alike
    have active := Series.activeIn_congr presentReordered labels slot
    simp only [arrived_cons, active]
    refine List.Perm.append ?_ ih
    split
    · exact Series.samplesOf_perm points slot
    · exact .refl _

theorem mergeSort_time_eq_of_perm {samples samples' : List UsageSample} (reordered : samples.Perm samples')
    (distinct : (samples.map (·.time)).Nodup) :
    (samples.mergeSort fun a b => a.time ≤ b.time) = samples'.mergeSort fun a b => a.time ≤ b.time := by
  have sorted := List.mergeSort_perm samples fun a b => a.time ≤ b.time
  refine List.Perm.eq_of_pairwise ?_ (mergeSort_time_pairwise samples) (mergeSort_time_pairwise samples')
    (sorted.trans (reordered.trans (List.mergeSort_perm samples' _).symm))
  intro a b aSorted bSorted before after
  have bMember := reordered.mem_iff.mpr (List.mem_mergeSort.mp bSorted)
  exact List.inj_on_of_nodup_map distinct (sorted.mem_iff.mp aSorted) bMember (le_antisymm before after)

/-- No two points of a slot that count are at one time. -/
def OncePerTime (present : List Sample) (series : List Series) : Prop :=
  ∀ slot, ((arrived present series slot).map (·.time)).Nodup

theorem ofSeries_eq_of_reordered {present present' : List Sample} {series series' : List Series}
    (presentReordered : present.Perm present') (reordered : Series.Reordered series series')
    (once : OncePerTime present series) :
    ofSeries (activeProcesses present) series = ofSeries (activeProcesses present') series' := by
  apply SortedMap.ext_get?
  intro slot
  have moved := arrived_perm presentReordered reordered slot
  rw [get?_ofSeries, get?_ofSeries, mergeSort_time_eq_of_perm moved (once slot)]
  have quiet : arrived present series slot = [] ↔ arrived present' series' slot = [] :=
    ⟨fun none => List.nil_perm.mp (none ▸ moved), fun none => List.perm_nil.mp (none ▸ moved)⟩
  simp only [quiet]

/-- Two stores that tell the same of an application, each in an order of its own. -/
structure TellAlike (states : σ → τ → Prop) (ask : Collaborators σ) (ask' : Collaborators τ) (guid : String)
    (window : Window) : Prop where
  ratios : Corresponds states List.Perm (ask (.instant (ratioQuery guid)) : Session σ (List Sample))
    (ask' (.instant (ratioQuery guid)) : Session τ (List Sample))
  rates : Corresponds states List.Perm (ask (.instant (rateQuery guid)) : Session σ (List Sample))
    (ask' (.instant (rateQuery guid)) : Session τ (List Sample))
  series : Corresponds states Series.Reordered
    (ask (.range (ratioQuery guid) window.start window.stop historyStepNanos) : Session σ (List Series))
    (ask' (.range (ratioQuery guid) window.start window.stop historyStepNanos) : Session τ (List Series))

/-- In the states that are reached, a store tells of no slot twice and of no time in a slot twice, as far as what it
tells of an application counts. -/
structure Unambiguous (reached : σ → Prop) (ask : Collaborators σ) (a : Application) (window : Window) : Prop where
  ratios : ∀ (s s' : σ) (samples : List Sample), reached s →
    (ask (.instant (ratioQuery a.guid))).run s = (.ok samples, s') → OncePerSlot Sample.usage? samples
  rates : ∀ (s s' : σ) (samples : List Sample), reached s →
    (ask (.instant (rateQuery a.guid))).run s = (.ok samples, s') → OncePerSlot (Sample.usageOf? a.instances) samples
  times : ∀ (s s' s'' : σ) (present : List Sample) (series : List Series), reached s →
    (ask (.instant (ratioQuery a.guid))).run s = (.ok present, s') →
    (ask (.range (ratioQuery a.guid) window.start window.stop historyStepNanos)).run s' = (.ok series, s'') →
    OncePerTime present series

variable {states : σ → τ → Prop} {ask : Collaborators σ} {ask' : Collaborators τ} {window : Window} {a : Application}

theorem corresponds_historical (alike : TellAlike states ask ask' a.guid window)
    (clear : Unambiguous (fun s => ∃ t, states s t) ask a window) :
    Corresponds states (· = ·) (historical ask window a.guid a.instances)
      (historical ask' window a.guid a.instances) := by
  intro s t before
  apply (alike.ratios s t before).bind
  intro s' t' present present' asked _ presentReordered between
  apply (alike.series s' t' between).bind
  intro s'' t'' series series' seriesAsked _ reordered after
  have once := clear.times s s' s'' present series ⟨t, before⟩ asked seriesAsked
  exact corresponds_pure (ofSeries_eq_of_reordered presentReordered reordered once) s'' t'' after

theorem corresponds_cumulative (alike : TellAlike states ask ask' a.guid window)
    (clear : Unambiguous (fun s => ∃ t, states s t) ask a window) :
    Corresponds states (· = ·) (cumulative ask a.guid a.instances) (cumulative ask' a.guid a.instances) := by
  intro s t before
  apply (alike.ratios s t before).bind
  intro s' t' samples samples' asked _ reordered after
  have once := clear.ratios s s' samples ⟨t, before⟩ asked
  exact corresponds_pure (ofSamples_eq_of_perm reordered once) s' t' after

/-- Both ask their fallbacks, or neither does. -/
theorem corresponds_current (alike : TellAlike states ask ask' a.guid window)
    (clear : Unambiguous (fun s => ∃ t, states s t) ask a window) {fallback : Fetcher σ} {fallback' : Fetcher τ}
    (filled : Corresponds states (· = ·) (fallback a.guid a.instances) (fallback' a.guid a.instances)) :
    Corresponds states (· = ·) (current ask fallback a.guid a.instances)
      (current ask' fallback' a.guid a.instances) := by
  intro s t before
  apply (alike.rates s t before).bind
  intro s' t' rates rates' asked _ reordered after
  have once := clear.rates s s' rates ⟨t, before⟩ asked
  rw [ofSamples_eq_of_perm reordered once]
  by_cases whole : a.instances.size ≤ (ofSamples (Sample.usageOf? a.instances) rates').size
  · simp only [if_pos whole]
    exact corresponds_pure rfl s' t' after
  · simp only [if_neg whole]
    apply (filled s' t' after).bind
    rintro s'' t'' rest _ _ _ rfl last
    exact corresponds_pure rfl s'' t'' last

end Usage
end CpuUsage
