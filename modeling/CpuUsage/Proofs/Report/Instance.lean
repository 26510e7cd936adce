import CpuUsage.Proofs.SortedMap
import CpuUsage.Proofs.Usage.Fetch
import CpuUsage.Proofs.Usage.Historical
import CpuUsage.Proofs.Usage.Spike
import CpuUsage.Report.Instance

/-! Instance reports, slot by slot: what each side of the usage tells of a slot is in its report, and there is a report
exactly where one of them tells something. -/
namespace CpuUsage

def HistoricalUsage.ofSamples? (samples : List UsageSample) : Option HistoricalUsage :=
  samples.getLast?.map fun last => ⟨last.value, Spike.detect entitlement samples⟩

/-- What present samples tell, if they are one. -/
def CurrentUsage.ofSamples? : List UsageSample → Option CurrentUsage
  | [sample] => some ⟨sample.value⟩
  | _ => none

/-- A usage whose spike is right among the points that count, and is still going on if the last value is over the
entitlement. -/
structure HistoricalUsage.RightOn (told : Instant → Binary64 → Prop) (usage : HistoricalUsage) : Prop where
  spike_iff : usage.lastSpike.isSome ↔ ∃ t v, told t v ∧ .one < v
  latest : ∀ spike, usage.lastSpike = some spike → Spike.Latest .one told spike
  ongoing : .one < usage.value →
    ∃ spike, usage.lastSpike = some spike ∧ (∃ v, told spike.stop v) ∧ ∀ t v, told t v → t ≤ spike.stop

namespace Usage.Timeline
variable {told : Instant → Binary64 → Prop} {samples : List UsageSample}

theorem le_last (timeline : Timeline told samples) {last : UsageSample} (isLast : samples.getLast? = some last)
    {t : Instant} {v : Binary64} (tells : told t v) : t ≤ last.time := by
  obtain ⟨u, member, rfl, rfl⟩ := (timeline.complete t v).mpr tells
  exact Spike.le_getLast timeline.chronological isLast u member

theorem detect_isSome_iff (timeline : Timeline told samples) (threshold : Binary64) :
    (Spike.detect threshold samples).isSome ↔ ∃ t v, told t v ∧ threshold < v := by
  rw [Spike.detect_isSome_iff]
  constructor
  · rintro ⟨u, member, exceeds⟩
    exact ⟨u.time, u.value, (timeline.complete _ _).mp ⟨u, member, rfl, rfl⟩, exceeds⟩
  · rintro ⟨t, v, tells, exceeds⟩
    obtain ⟨u, member, rfl, rfl⟩ := (timeline.complete t v).mpr tells
    exact ⟨u, member, exceeds⟩

theorem detect_latest (timeline : Timeline told samples) {threshold : Binary64} {spike : Spike}
    (detected : Spike.detect threshold samples = some spike) : Spike.Latest threshold told spike := by
  have same : (fun t v => ∃ u ∈ samples, u.time = t ∧ u.value = v) = told := by
    funext t v
    exact propext (timeline.complete t v)
  exact same ▸ Spike.detect_latest timeline.chronological detected

end Usage.Timeline

namespace HistoricalUsage

theorem rightOn_of_timeline {told : Instant → Binary64 → Prop} {samples : List UsageSample}
    (timeline : Usage.Timeline told samples) :
    ∃ usage, ofSamples? samples = some usage ∧ usage.RightOn told := by
  obtain ⟨last, isLast⟩ := Option.isSome_iff_exists.mp (List.getLast?_isSome.mpr timeline.nonempty)
  have lastTold : told last.time last.value :=
    (timeline.complete _ _).mp ⟨last, List.mem_of_getLast? isLast, rfl, rfl⟩
  refine ⟨⟨last.value, Spike.detect entitlement samples⟩, by rw [ofSamples?, isLast]; rfl, ?_⟩
  constructor
  · exact timeline.detect_isSome_iff entitlement
  · exact fun spike => timeline.detect_latest
  · intro exceeds
    obtain ⟨spike, detected⟩ :=
      Option.isSome_iff_exists.mp ((timeline.detect_isSome_iff entitlement).mpr ⟨_, _, lastTold, exceeds⟩)
    have right := timeline.detect_latest detected
    obtain ⟨v, stopTold, _⟩ := right.stops
    refine ⟨spike, detected, ⟨v, stopTold⟩, ?_⟩
    intro t v tells
    exact le_trans (timeline.le_last isLast tells) (right.latest _ _ lastTold exceeds)

theorem rightOn_of_none {told : Instant → Binary64 → Prop} (silent : ∀ t v, ¬ told t v) :
    RightOn told ⟨.zero, none⟩ := by
  constructor
  · simp [silent]
  · intro spike same
    contradiction
  · intro exceeds
    exact absurd exceeds (by decide +kernel)

end HistoricalUsage

namespace InstanceReport

def withHistorical (slot : InstanceId) (usage : Option HistoricalUsage) (old : Option InstanceReport) :
    Option InstanceReport :=
  match usage with
  | some usage => some { old.getD (.new slot) with historical := usage }
  | none => old

def withCurrent (slot : InstanceId) (usage : Option CurrentUsage) (old : Option InstanceReport) :
    Option InstanceReport :=
  match usage with
  | some usage => some { old.getD (.new slot) with current := usage }
  | none => old

/-- The report of a slot by what is known of it on either side. -/
def ofSides? (slot : InstanceId) : Option HistoricalUsage → Option CurrentUsage → Option InstanceReport
  | none, none => none
  | past, present => some ⟨slot, past.getD ⟨.zero, none⟩, present.getD ⟨.zero⟩⟩

theorem ofSides?_eq_none_iff {slot : InstanceId} {past : Option HistoricalUsage} {present : Option CurrentUsage} :
    ofSides? slot past present = none ↔ past = none ∧ present = none := by
  cases past <;> cases present <;> simp [ofSides?]

theorem eq_of_ofSides? {slot : InstanceId} {past : Option HistoricalUsage}
    {present : Option CurrentUsage} {r : InstanceReport} (told : ofSides? slot past present = some r) :
    r = ⟨slot, past.getD ⟨.zero, none⟩, present.getD ⟨.zero⟩⟩ := by
  unfold ofSides? at told
  split at told
  · contradiction
  · exact (Option.some.inj told).symm

theorem withCurrent_withHistorical (slot : InstanceId) (past : Option HistoricalUsage) (present : Option CurrentUsage) :
    withCurrent slot present (withHistorical slot past none) = ofSides? slot past present := by
  cases past <;> cases present <;> rfl

end InstanceReport

namespace InstanceReports

theorem get?_addHistorical (reports : InstanceReports) (slot : InstanceId) (samples : List UsageSample)
    (slot' : InstanceId) :
    (reports.addHistorical slot samples).get? slot' =
      if slot' = slot then
        InstanceReport.withHistorical slot (HistoricalUsage.ofSamples? samples) (reports.get? slot)
      else reports.get? slot' := by
  rw [addHistorical, HistoricalUsage.ofSamples?]
  cases samples.getLast? with
  | none => by_cases same : slot' = slot <;> simp [same, InstanceReport.withHistorical]
  | some last => exact SortedMap.get?_alter ..

theorem get?_addCurrent (reports : InstanceReports) (slot : InstanceId) (samples : List UsageSample)
    (slot' : InstanceId) :
    (reports.addCurrent slot samples).get? slot' =
      if slot' = slot then InstanceReport.withCurrent slot (CurrentUsage.ofSamples? samples) (reports.get? slot)
      else reports.get? slot' := by
  match samples with
  | [] | _ :: _ :: _ =>
    by_cases same : slot' = slot <;> simp [addCurrent, CurrentUsage.ofSamples?, InstanceReport.withCurrent, same]
  | [sample] => exact SortedMap.get?_alter ..

theorem get?_reconcile (historical current : Usage) (slot : InstanceId) :
    (reconcile historical current).get? slot =
      InstanceReport.ofSides? slot ((historical.get? slot).bind HistoricalUsage.ofSamples?)
        ((current.get? slot).bind CurrentUsage.ofSamples?) := by
  rw [← InstanceReport.withCurrent_withHistorical, reconcile,
    SortedMap.get?_foldl_entries addCurrent
      (fun slot samples => InstanceReport.withCurrent slot (CurrentUsage.ofSamples? samples)) get?_addCurrent,
    SortedMap.get?_foldl_entries addHistorical
      (fun slot samples => InstanceReport.withHistorical slot (HistoricalUsage.ofSamples? samples)) get?_addHistorical,
    SortedMap.get?_empty]
  cases historical.get? slot <;> cases current.get? slot <;> rfl

theorem historical_of_reconcile {historical current : Usage} {r : InstanceReport}
    (reported : r ∈ (reconcile historical current).values) :
    r.historical = ((historical.get? r.slot).bind HistoricalUsage.ofSamples?).getD ⟨.zero, none⟩ := by
  obtain ⟨slot, held⟩ := (SortedMap.mem_values_iff _ _).mp reported
  rw [get?_reconcile] at held
  rw [InstanceReport.eq_of_ofSides? held]

theorem historical_eq_none_iff (present : List Sample) (series : List Series) (slot : InstanceId) :
    ((Usage.ofSeries (Usage.activeProcesses present) series).get? slot).bind HistoricalUsage.ofSamples? = none ↔
      ∀ t v, ¬ Usage.Accepted present series slot t v := by
  cases held : (Usage.ofSeries (Usage.activeProcesses present) series).get? slot with
  | none => simp [Usage.not_accepted_of_get? held]
  | some samples =>
    have timeline := Usage.timeline_of_get? held
    obtain ⟨u, member⟩ := List.exists_mem_of_ne_nil samples timeline.nonempty
    have accepted := (timeline.complete _ _).mp ⟨u, member, rfl, rfl⟩
    obtain ⟨usage, tells, _⟩ := HistoricalUsage.rightOn_of_timeline timeline
    simp only [Option.bind_some, tells, reduceCtorEq, false_iff]
    exact fun silent => silent _ _ accepted

theorem current_eq_none_iff {current : Usage} (single : current.Single) (slot : InstanceId) :
    (current.get? slot).bind CurrentUsage.ofSamples? = none ↔ (current.get? slot).isSome = false := by
  cases held : current.get? slot with
  | none => simp
  | some samples =>
    obtain ⟨u, rfl⟩ := single slot samples held
    simp [CurrentUsage.ofSamples?]

/-- There is a report if a point of the past counts or there is a present sample, and not otherwise. -/
theorem reconcile_ne_nil_iff {present : List Sample} {series : List Series} {current : Usage} (single : current.Single) :
    (reconcile (Usage.ofSeries (Usage.activeProcesses present) series) current).values ≠ [] ↔
      (∃ slot t v, Usage.Accepted present series slot t v) ∨ ∃ slot, (current.get? slot).isSome := by
  rw [Ne, SortedMap.values_eq_nil_iff]
  simp only [get?_reconcile, InstanceReport.ofSides?_eq_none_iff, historical_eq_none_iff, current_eq_none_iff single,
    forall_and]
  rw [not_and_or]
  push Not
  simp only [ne_eq, Bool.not_eq_false]

theorem rightOn_of_reconcile {present : List Sample} {series : List Series} {current : Usage} {r : InstanceReport}
    (reported : r ∈ (reconcile (Usage.ofSeries (Usage.activeProcesses present) series) current).values) :
    r.historical.RightOn (Usage.Accepted present series r.slot) := by
  rw [historical_of_reconcile reported]
  cases held : (Usage.ofSeries (Usage.activeProcesses present) series).get? r.slot with
  | none => exact HistoricalUsage.rightOn_of_none (Usage.not_accepted_of_get? held)
  | some samples =>
    obtain ⟨usage, tells, right⟩ := HistoricalUsage.rightOn_of_timeline (Usage.timeline_of_get? held)
    rw [Option.bind_some, tells]
    exact right

/-- Without points that count, the value of the past is zero; otherwise it is that of one of them. -/
theorem value_of_reconcile {present : List Sample} {series : List Series} {current : Usage} {r : InstanceReport}
    (reported : r ∈ (reconcile (Usage.ofSeries (Usage.activeProcesses present) series) current).values) :
    r.historical.value = .zero ∨ ∃ t, Usage.Accepted present series r.slot t r.historical.value := by
  rw [historical_of_reconcile reported]
  cases held : (Usage.ofSeries (Usage.activeProcesses present) series).get? r.slot with
  | none => exact .inl rfl
  | some samples =>
    have timeline := Usage.timeline_of_get? held
    obtain ⟨last, isLast⟩ := Option.isSome_iff_exists.mp (List.getLast?_isSome.mpr timeline.nonempty)
    have lastTold := (timeline.complete _ _).mp ⟨last, List.mem_of_getLast? isLast, rfl, rfl⟩
    rw [Option.bind_some, HistoricalUsage.ofSamples?, isLast]
    exact .inr ⟨last.time, lastTold⟩

/-- Whatever the store answers, the spikes that are reported are right on the time line of their slots. -/
theorem collect_rightOn {ask : Collaborators σ} {window : Window} {current : Fetcher σ} {a : Application} {s s' : σ}
    {reports : List InstanceReport}
    (collected : (collect (Usage.historical ask window) current a).run s = (.ok reports, s')) :
    ∃ (present : List Sample) (series : List Series) (s₁ s₂ : σ),
      (ask (.instant (ratioQuery a.guid))).run s = (.ok present, s₁) ∧
      (ask (.range (ratioQuery a.guid) window.start window.stop historyStepNanos)).run s₁ = (.ok series, s₂) ∧
      ∀ r ∈ reports, r.historical.RightOn (Usage.Accepted present series r.slot) := by
  obtain ⟨past, _, asked, collected⟩ := Session.run_bind_eq_ok collected
  obtain ⟨current, _, _, collected⟩ := Session.run_bind_eq_ok collected
  obtain ⟨present, s₁, presentAsked, asked⟩ := Session.run_bind_eq_ok asked
  obtain ⟨series, s₂, seriesAsked, asked⟩ := Session.run_bind_eq_ok asked
  rw [Session.run_pure] at asked collected
  cases asked
  cases collected
  exact ⟨present, series, s₁, _, presentAsked, seriesAsked, fun r reported => rightOn_of_reconcile reported⟩

def second (n : Nat) : Instant :=
  (Instant.ofParts? n 0).getD .epoch

def double : Binary64 :=
  ⟨0x4000000000000000⟩

def oneProcess : List Sample :=
  [⟨.ofList [("process_instance_id", "p")], "40", .zero⟩]

/-- Two series of one process; the second has what is missing between the points of the first. -/
def interleaved : List Series :=
  let labels : Labels := .ofList [("instance_id", "0"), ("process_instance_id", "p")]
  [⟨labels, [⟨"30", double⟩, ⟨"10", .one⟩]⟩, ⟨labels, [⟨"20", double⟩]⟩]

/-- Wherever the process is active, its points are found in the order of their times. -/
theorem entries_ofSeries_interleaved {active : List String} (told : interleaved.filterMap (Series.usageOf? active) =
      [(0, [⟨0, second 30, double⟩, ⟨0, second 10, .one⟩]), (0, [⟨0, second 20, double⟩])]) :
    (Usage.ofSeries active interleaved).entries =
      [(0, [⟨0, second 10, .one⟩, ⟨0, second 20, double⟩, ⟨0, second 30, double⟩])] := by
  have order : ¬ second 30 ≤ second 10 ∧ second 10 ≤ second 20 ∧ ¬ second 30 ≤ second 20 := by decide +kernel
  have sorted : [(⟨0, second 30, double⟩ : UsageSample), ⟨0, second 10, .one⟩, ⟨0, second 20, double⟩].mergeSort
      (fun a b => a.time ≤ b.time) = [⟨0, second 10, .one⟩, ⟨0, second 20, double⟩, ⟨0, second 30, double⟩] := by
    simp [List.mergeSort, List.MergeSort.Internal.splitInTwo, order]
  rw [Usage.ofSeries, told]
  exact congrArg (fun samples => [((0 : InstanceId), samples)]) sorted

def interleavedStore : Collaborators Unit
  | .instant _ => Session.pure oneProcess
  | .range .. => Session.pure interleaved
  | _ => Session.fail .unanswered

theorem collect_rightOn_interleaved : ∃ reports,
    (collect (Usage.historical interleavedStore ⟨.epoch, .epoch⟩) (fun _ _ => pure .empty) (.new "app" "guid")).run () =
      (.ok reports, ()) ∧
    reports.map (·.historical.lastSpike) = [some ⟨second 20, second 30⟩] ∧
    ∀ r ∈ reports, r.historical.RightOn (Usage.Accepted oneProcess interleaved r.slot) := by
  have active : Usage.activeProcesses oneProcess = ["p"] := by decide +kernel
  have ran : (collect (Usage.historical interleavedStore ⟨.epoch, .epoch⟩) (fun _ _ => pure .empty)
      (.new "app" "guid")).run () = (.ok (reconcile (Usage.ofSeries ["p"] interleaved) .empty).values, ()) := by
    rw [← active]
    rfl
  obtain ⟨present, series, _, _, presentAsked, seriesAsked, right⟩ := collect_rightOn ran
  cases presentAsked
  cases seriesAsked
  refine ⟨_, ran, ?_, right⟩
  rw [reconcile, entries_ofSeries_interleaved (by decide +kernel)]
  decide +kernel

end InstanceReports
end CpuUsage
