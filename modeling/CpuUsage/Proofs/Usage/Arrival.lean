import CpuUsage.Proofs.Report.Instance

/-! The past of each slot, point by point. What is found of a slot are the points that arrived for it, sorted by time, with
equal times as they arrived. There is only one such list. -/
namespace CpuUsage

namespace Usage

/-- All that arrived, earlier times first, and equal times in the order of their arrival. -/
structure StablySorted (arrived sorted : List UsageSample) : Prop where
  perm : sorted.Perm arrived
  chronological : sorted.Pairwise fun a b => a.time ≤ b.time
  stable : ∀ t, sorted.filter (fun u => u.time = t) = arrived.filter fun u => u.time = t

theorem filter_time_mergeSort (samples : List UsageSample) (t : Instant) :
    (samples.mergeSort fun a b => a.time ≤ b.time).filter (fun u => u.time = t) =
      samples.filter fun u => u.time = t := by
  have equalTimes : (samples.filter fun u => u.time = t).Pairwise fun a b => decide (a.time ≤ b.time) = true := by
    apply List.pairwise_filter.mpr
    refine List.pairwise_of_forall fun a b isAt isAt' => ?_
    simp only [decide_eq_true_eq] at isAt isAt' ⊢
    exact le_of_eq (isAt.trans isAt'.symm)
  have kept := List.sublist_mergeSort time_le_trans time_le_total equalTimes List.filter_sublist
  have sublist := kept.filter fun u => decide (u.time = t)
  rw [List.filter_filter] at sublist
  simp only [Bool.and_self] at sublist
  exact (sublist.eq_of_length ((List.mergeSort_perm _ _).filter _).length_eq.symm).symm

theorem stablySorted_mergeSort (samples : List UsageSample) :
    StablySorted samples (samples.mergeSort fun a b => a.time ≤ b.time) :=
  ⟨List.mergeSort_perm _ _, mergeSort_time_pairwise samples, filter_time_mergeSort samples⟩

theorem mem_iff_of_filter_time {xs ys : List UsageSample}
    (same : ∀ t, xs.filter (fun u => u.time = t) = ys.filter fun u => u.time = t) (u : UsageSample) :
    u ∈ xs ↔ u ∈ ys := by
  have here := congrArg (u ∈ ·) (same u.time)
  simpa using here

/-- A list in the order of its times is determined by what it has at each time. -/
theorem eq_of_filter_time {xs ys : List UsageSample} (chronological : xs.Pairwise fun a b => a.time ≤ b.time)
    (chronological' : ys.Pairwise fun a b => a.time ≤ b.time)
    (same : ∀ t, xs.filter (fun u => u.time = t) = ys.filter fun u => u.time = t) : xs = ys := by
  induction xs generalizing ys with
  | nil =>
    have none : ∀ u, u ∉ ys := fun u held => absurd ((mem_iff_of_filter_time same u).mpr held) (by simp)
    exact (List.eq_nil_iff_forall_not_mem.mpr none).symm
  | cons x xs ih =>
    have member := mem_iff_of_filter_time same
    cases ys with
    | nil => exact absurd ((member x).mp List.mem_cons_self) (by simp)
    | cons y ys =>
      have sameTime : y.time = x.time := by
        apply le_antisymm
        · exact Spike.head_le chronological' rfl x ((member x).mp List.mem_cons_self)
        · exact Spike.head_le chronological rfl y ((member y).mpr List.mem_cons_self)
      have first := same x.time
      rw [List.filter_cons_of_pos (by simp), List.filter_cons_of_pos (by simpa using sameTime)] at first
      obtain ⟨rfl, rest⟩ := List.cons.inj first
      have sameRest (t : Instant) : xs.filter (fun u => u.time = t) = ys.filter fun u => u.time = t := by
        by_cases now : x.time = t
        · rw [← now]
          exact rest
        · have later := same t
          rwa [List.filter_cons_of_neg (by simpa using now), List.filter_cons_of_neg (by simpa using now)] at later
      rw [ih (List.pairwise_cons.mp chronological).2 (List.pairwise_cons.mp chronological').2 sameRest]

theorem StablySorted.unique {arrived sorted sorted' : List UsageSample} (h : StablySorted arrived sorted)
    (h' : StablySorted arrived sorted') : sorted = sorted' :=
  eq_of_filter_time h.chronological h'.chronological fun t => (h.stable t).trans (h'.stable t).symm

/-- Usage of the past: the slots of which points arrived, each with its points in stable order. -/
structure IsHistory (present : List Sample) (series : List Series) (usage : Usage) : Prop where
  held_iff : ∀ slot, (usage.get? slot).isSome ↔ arrived present series slot ≠ []
  sorted : ∀ slot samples, usage.get? slot = some samples → StablySorted (arrived present series slot) samples

theorem isHistory_ofSeries (present : List Sample) (series : List Series) :
    IsHistory present series (ofSeries (activeProcesses present) series) := by
  constructor
  · intro slot
    rw [get?_ofSeries]
    split
    · next quiet => simp [quiet]
    · next some => simp [some]
  · intro slot samples held
    rw [get?_ofSeries] at held
    split at held
    · contradiction
    · cases held
      exact stablySorted_mergeSort _

namespace IsHistory
variable {present : List Sample} {series : List Series} {usage usage' : Usage}

theorem unique (h : IsHistory present series usage) (h' : IsHistory present series usage') : usage = usage' := by
  apply SortedMap.ext_get?
  intro slot
  cases held : usage.get? slot with
  | none =>
    have quiet := mt (h.held_iff slot).mpr (by simp [held])
    exact (Option.not_isSome_iff_eq_none.mp (mt (h'.held_iff slot).mp quiet)).symm
  | some samples =>
    have some := (h.held_iff slot).mp (by simp [held])
    obtain ⟨samples', held'⟩ := Option.isSome_iff_exists.mp ((h'.held_iff slot).mpr some)
    rw [held', (h.sorted slot samples held).unique (h'.sorted slot samples' held')]

theorem nonempty (h : IsHistory present series usage) {slot : InstanceId} {samples : List UsageSample}
    (held : usage.get? slot = some samples) : samples ≠ [] := by
  rintro rfl
  exact (h.held_iff slot).mp (by simp [held]) (List.nil_perm.mp (h.sorted slot [] held).perm)

theorem active (h : IsHistory present series usage) {slot : InstanceId} {samples : List UsageSample}
    (held : usage.get? slot = some samples) {u : UsageSample} (member : u ∈ samples) :
    u.slot = slot ∧ ∃ s ∈ series, s.ActiveIn present slot ∧ s.Tells u.time u.value :=
  mem_arrived.mp ((h.sorted slot samples held).perm.mem_iff.mp member)

end IsHistory

/-- Once the store has answered, the past is found: of each slot all the points that arrived of processes that are
active, each once, in the stable order of their times, and nothing else. -/
theorem historical_exact {ask : Collaborators σ} {window : Window} {guid : String} {s s₁ s₂ : σ} {present : List Sample}
    {series : List Series} (asked : (ask (.instant (ratioQuery guid))).run s = (.ok present, s₁))
    (told : (ask (.range (ratioQuery guid) window.start window.stop historyStepNanos)).run s₁ = (.ok series, s₂))
    (instances : Instances) :
    ∃ usage, (historical ask window guid instances).run s = (.ok usage, s₂) ∧ IsHistory present series usage ∧
      (∀ other, IsHistory present series other → other = usage) ∧
      ∀ slot samples, usage.get? slot = some samples → samples ≠ [] ∧
        ∀ u ∈ samples, u.slot = slot ∧ ∃ s ∈ series, s.ActiveIn present slot ∧ s.Tells u.time u.value := by
  have isHistory := isHistory_ofSeries present series
  refine ⟨ofSeries (activeProcesses present) series, ?_, isHistory, fun other h => h.unique isHistory, ?_⟩
  · exact (Session.run_bind_ok asked).trans (Session.run_bind_ok told)
  · intro slot samples held
    exact ⟨isHistory.nonempty held, fun u => isHistory.active held⟩

end Usage

/-! A slot whose points come from two active processes, one of them with its slot written in another way, and a process
that is gone. -/
namespace Usage.TwoProcesses
open InstanceReports

/-- Names of processes are all that counts here. -/
def present : List Sample :=
  [⟨.ofList [("process_instance_id", "new")], "soon", .nan⟩, ⟨.ofList [("process_instance_id", "")], "40", .one⟩,
    ⟨.ofList [("instance_id", "7"), ("process_instance_id", "next")], "40", .one⟩]

def line (slot process : String) (points : List Point) : Series :=
  ⟨.ofList [("instance_id", slot), ("process_instance_id", process)], points⟩

def past : List Series :=
  [line "01" "new" [⟨"30", double⟩, ⟨"late", .one⟩, ⟨"10", .one⟩], line "1" "gone" [⟨"5", double⟩],
    line "1" "next" [⟨"30", .zero⟩, ⟨"20", double⟩], line "2" "new" [⟨"", .one⟩], line "-1" "new" [⟨"10", .one⟩]]

def store : Collaborators Unit
  | .instant _ => Session.pure present
  | .range .. => Session.pure past
  | _ => Session.fail .unanswered

theorem arrived_past : arrived present past 1 =
      [⟨1, second 30, double⟩, ⟨1, second 10, .one⟩, ⟨1, second 30, .zero⟩, ⟨1, second 20, double⟩] ∧
    arrived present past 2 = [] := by
  decide +kernel

/-- At each of the times there are, the points stand as they arrived; at any other there are none. -/
theorem stablySorted_past : StablySorted (arrived present past 1)
    [⟨1, second 10, .one⟩, ⟨1, second 20, double⟩, ⟨1, second 30, double⟩, ⟨1, second 30, .zero⟩] := by
  rw [arrived_past.1]
  refine ⟨by decide +kernel, by decide +kernel, fun t => ?_⟩
  have distinct : second 10 ≠ second 20 ∧ second 10 ≠ second 30 ∧ second 20 ≠ second 30 := by decide +kernel
  by_cases first : second 10 = t
  · simp [← first, distinct.1.symm, distinct.2.1.symm]
  by_cases middle : second 20 = t
  · simp [← middle, distinct, distinct.2.2.symm]
  simp [first, middle, List.filter_cons]

end Usage.TwoProcesses

namespace Usage

theorem historical_exact_twoProcesses : ∃ usage,
    (TwoProcesses.store (.instant (ratioQuery "guid"))).run () = (.ok TwoProcesses.present, ()) ∧
    (TwoProcesses.store (.range (ratioQuery "guid") .epoch .epoch historyStepNanos)).run () =
      (.ok TwoProcesses.past, ()) ∧
    (historical TwoProcesses.store ⟨.epoch, .epoch⟩ "guid" .empty).run () = (.ok usage, ()) ∧
    IsHistory TwoProcesses.present TwoProcesses.past usage ∧
    usage.get? 1 = some [⟨1, InstanceReports.second 10, .one⟩, ⟨1, InstanceReports.second 20, InstanceReports.double⟩,
      ⟨1, InstanceReports.second 30, InstanceReports.double⟩, ⟨1, InstanceReports.second 30, .zero⟩] ∧
    usage.get? 2 = none := by
  have asked : (TwoProcesses.store (.instant (ratioQuery "guid"))).run () = (.ok TwoProcesses.present, ()) := rfl
  have told : (TwoProcesses.store (.range (ratioQuery "guid") .epoch .epoch historyStepNanos)).run () =
    (.ok TwoProcesses.past, ()) := rfl
  obtain ⟨usage, ran, isHistory, _⟩ := @historical_exact _ _ ⟨.epoch, .epoch⟩ _ _ _ _ _ _ asked told .empty
  refine ⟨usage, asked, told, ran, isHistory, ?_, ?_⟩
  · have some := (isHistory.held_iff 1).mpr (by simp [TwoProcesses.arrived_past.1])
    obtain ⟨samples, held⟩ := Option.isSome_iff_exists.mp some
    rw [held, (isHistory.sorted 1 samples held).unique TwoProcesses.stablySorted_past]
  · have quiet := mt (isHistory.held_iff 2).mp (by simp [TwoProcesses.arrived_past.2])
    exact Option.not_isSome_iff_eq_none.mp quiet

end Usage
end CpuUsage
