import CpuUsage.Proofs.Failure
import CpuUsage.Proofs.Report.Application

/-! Where the values of a report come from. Whatever is true of all values in the answers that a run is given is true of
all values in its report, save for the zeros of the sides that are not told of. -/
namespace CpuUsage
open Session

/-- Every run is made of these steps, and what a run comes to that lies between these two states is one of these. -/
structure Session.Ensures (step : σ → σ → Prop) (first last : σ) (x : Session σ α) (Q : α → Prop) : Prop where
  within : Within step (fun _ => True) x
  holds : ∀ s a s', Relation.ReflTransGen step first s → x.run s = (.ok a, s') →
    Relation.ReflTransGen step s' last → Q a

namespace Session
variable {σ α β : Type} {step : σ → σ → Prop} {first last : σ}

theorem ensures_pure {Q : α → Prop} {a : α} (holds : Q a) : Ensures step first last (pure a : Session σ α) Q := by
  refine ⟨within_pure a, ?_⟩
  intro s a' s' _ ran _
  cases ran
  exact holds

theorem ensures_fail (e : Failure) (Q : α → Prop) : Ensures step first last (fail e : Session σ α) Q := by
  refine ⟨within_fail trivial, ?_⟩
  intro s a s' _ ran
  cases ran

/-- The second computation must be made of steps whether or not the first one's result has its property: it is they that
show the first run to lie before `last`. -/
theorem Ensures.bind {x : Session σ α} {f : α → Session σ β} {Q : α → Prop} {R : β → Prop}
    (ensures : Ensures step first last x Q) (next : ∀ a, Ensures step first last (f a) fun b => Q a → R b) :
    Ensures step first last (x >>= f) R := by
  refine ⟨ensures.within.bind fun a => (next a).within, ?_⟩
  intro s b s' before ran after
  obtain ⟨a, between, began, went⟩ := run_bind_eq_ok ran
  have reached := ensures.within.steps s
  have left := (next a).within.steps between
  rw [began] at reached
  rw [went] at left
  exact (next a).holds between b s' (before.trans reached) went after
    (ensures.holds s a between before began (left.trans after))

end Session

/-- All values in the answer to a call have the property; only those to queries hold values. -/
def Call.Carries (P : Binary64 → Prop) : (c : Call) → c.Answer → Prop
  | .instant _ => fun samples : List Sample => ∀ s ∈ samples, P s.point.value
  | .range .. => fun series : List Series => ∀ s ∈ series, ∀ p ∈ s.points, P p.value
  | _ => fun _ => True

namespace Usage
variable {P : Binary64 → Prop}

def Carries (P : Binary64 → Prop) (usage : Usage) : Prop :=
  ∀ slot samples, usage.get? slot = some samples → ∀ u ∈ samples, P u.value

theorem carries_ofSamples {accept : Sample → Option UsageSample}
    (accepted : ∀ s u, accept s = some u → u.value = s.point.value) {samples : List Sample}
    (all : ∀ s ∈ samples, P s.point.value) : Carries P (ofSamples accept samples) := by
  intro slot found held u member
  rw [get?_ofSamples, Option.map_eq_some_iff] at held
  obtain ⟨first, isFirst, rfl⟩ := held
  obtain rfl := List.mem_singleton.mp member
  obtain ⟨s, isSample, taken⟩ := List.mem_filterMap.mp (List.mem_of_find?_eq_some isFirst)
  rw [accepted s u taken]
  exact all s isSample

theorem carries_ofSeries {present : List Sample} {series : List Series}
    (all : ∀ s ∈ series, ∀ p ∈ s.points, P p.value) : Carries P (ofSeries (activeProcesses present) series) := by
  intro slot samples held u member
  obtain ⟨s, isSeries, _, p, isPoint, _, same⟩ := ((timeline_of_get? held).complete _ _).mp ⟨u, member, rfl, rfl⟩
  rw [← same]
  exact all s isSeries p isPoint

theorem Carries.fill {usage fallback : Usage} (carries : Carries P usage) (carries' : Carries P fallback)
    (slots : List InstanceId) : Carries P (usage.fill fallback slots) := by
  intro slot samples held
  rw [get?_fill, Option.or_eq_some_iff] at held
  rcases held with own | ⟨_, filled⟩
  · exact carries slot samples own
  · split at filled
    · exact carries' slot samples filled
    · contradiction

theorem Carries.samplesIn {usage : Usage} (carries : Carries P usage) {slot : InstanceId} {u : UsageSample}
    (member : u ∈ usage.samplesIn slot) : P u.value := by
  rw [Usage.samplesIn] at member
  cases held : usage.get? slot with
  | none => simp [held] at member
  | some samples => exact carries slot samples held u (by simpa [held] using member)

end Usage

/-- The value of a sample that is taken is that of its point. -/
theorem Sample.value_of_usage? {s : Sample} {u : UsageSample} (told : s.usage? = some u) : u.value = s.point.value := by
  simp only [usage?, Option.bind_eq_bind, Option.bind_eq_some_iff, Option.pure_def, Option.some.injEq] at told
  obtain ⟨_, _, _, _, rfl⟩ := told
  rfl

/-- Both values have the property, or are the zero of a side that is not told of. -/
structure InstanceReport.Carries (P : Binary64 → Prop) (r : InstanceReport) : Prop where
  historical : r.historical.value = .zero ∨ P r.historical.value
  current : r.current.value = .zero ∨ P r.current.value

theorem InstanceReports.carries_reconcile {P : Binary64 → Prop} {past present : Usage} (pastCarries : past.Carries P)
    (presentCarries : present.Carries P) : ∀ r ∈ (reconcile past present).values, r.Carries P := by
  intro r reported
  have same := eq_of_mem_reconcile reported
  constructor
  · rw [congrArg InstanceReport.historical same, HistoricalUsage.ofSamples?]
    cases isLast : (past.samplesIn r.slot).getLast? with
    | none => exact .inl rfl
    | some last => exact .inr (pastCarries.samplesIn (List.mem_of_getLast? isLast))
  · rw [congrArg InstanceReport.current same]
    rcases found : present.samplesIn r.slot with _ | ⟨u, _ | _⟩
    · exact .inl rfl
    · exact .inr (presentCarries.samplesIn (found ▸ List.mem_singleton_self u))
    · exact .inl rfl

section
variable {σ : Type} {step : σ → σ → Prop} {first last : σ} {P : Binary64 → Prop} {ask : Collaborators σ}
  (asked : ∀ c, Ensures step first last (ask c) (c.Carries P))
include asked

namespace Usage

theorem ensures_cumulative (guid : String) (instances : Instances) :
    Ensures step first last (cumulative ask guid instances) (Carries P) :=
  (asked (.instant _)).bind fun _ => ensures_pure (carries_ofSamples fun _ _ => Sample.value_of_usage?)

theorem ensures_historical (window : Window) (guid : String) (instances : Instances) :
    Ensures step first last (historical ask window guid instances) (Carries P) :=
  (asked (.instant _)).bind fun _ => (asked (.range ..)).bind fun _ => ensures_pure fun all _ => carries_ofSeries all

theorem ensures_current (guid : String) (instances : Instances) :
    Ensures step first last (current ask (cumulative ask) guid instances) (Carries P) := by
  refine (asked (.instant _)).bind fun (rates : List Sample) => ?_
  have carries (all : ∀ s ∈ rates, P s.point.value) : Carries P (ofSamples (Sample.usageOf? instances) rates) := by
    refine carries_ofSamples (fun s u taken => ?_) all
    obtain ⟨_, _, _, told⟩ := Sample.usageOf?_eq_some.mp taken
    exact Sample.value_of_usage? told
  dsimp only
  split
  · exact ensures_pure carries
  · exact (ensures_cumulative asked guid instances).bind fun rest => ensures_pure fun carries' all =>
      (carries all).fill carries' _

end Usage

theorem Processes.ensures_readPages (guid : String) (limit pages : Nat) (stop : Option Instant) (found : Processes) :
    Ensures step first last (readPages ask guid limit pages stop found) fun _ => True :=
  ⟨within_readPages (fun c => (asked c).within) guid limit pages stop found, fun _ _ _ _ _ _ => trivial⟩

theorem InstanceReports.ensures_collect (window : Window) (a : Application) :
    Ensures step first last (collect (Usage.historical ask window) (Usage.current ask (Usage.cumulative ask)) a)
      fun reports => ∀ r ∈ reports, r.Carries P :=
  (Usage.ensures_historical asked window _ _).bind fun _ => (Usage.ensures_current asked _ _).bind fun _ =>
    ensures_pure fun presentCarries pastCarries => carries_reconcile pastCarries presentCarries

/-- What is true of all values in the answers is true of all values in the report. -/
theorem ApplicationReport.ensures_create (paging : Paging) (window : Window) (name : String) :
    Ensures step first last
      (create ask paging (Usage.historical ask window) (Usage.current ask (Usage.cumulative ask)) name)
      fun report => ∀ r ∈ report.instances, r.Carries P := by
  refine (asked .org).bind fun org => (asked .space).bind fun space => (asked .username).bind fun username =>
    (asked (.application name)).bind fun found => (Processes.ensures_readPages asked _ _ _ _ _).bind fun processes => ?_
  dsimp only
  split
  · exact ensures_pure (by simp)
  · refine (InstanceReports.ensures_collect asked window _).bind fun reports => ?_
    split
    · exact ensures_fail _ _
    · exact ensures_pure fun carries _ _ _ _ _ => carries

end
end CpuUsage
