import CpuUsage.Proofs.Correspondence
import CpuUsage.Proofs.Usage.Fetch
import CpuUsage.Proofs.Usage.Order

/-! Malformed records stand alone. A way of finding usage comes to the same result by the same calls if the records that
it cannot read are left out of the answers beforehand, so none of them takes the place of another record, counts as one or
leaves an empty slot behind. -/
namespace CpuUsage
open Session

/-- A sample whose slot or time cannot be read. -/
def Sample.IsMalformed (s : Sample) : Prop :=
  slotOf? s.labels = none ∨ readTime? s.point.time = none

instance (s : Sample) : Decidable s.IsMalformed :=
  inferInstanceAs (Decidable (_ ∨ _))

/-- A sample that names no process. -/
def Sample.IsAnonymous (s : Sample) : Prop :=
  processOf? s.labels = none

instance (s : Sample) : Decidable s.IsAnonymous :=
  inferInstanceAs (Decidable (_ = _))

def Point.IsMalformed (p : Point) : Prop :=
  readTime? p.time = none

instance (p : Point) : Decidable p.IsMalformed :=
  inferInstanceAs (Decidable (_ = _))

/-- A series whose slot cannot be read, or that names no process. -/
def Series.IsMalformed (s : Series) : Prop :=
  slotOf? s.labels = none ∨ processOf? s.labels = none

instance (s : Series) : Decidable s.IsMalformed :=
  inferInstanceAs (Decidable (_ ∨ _))

/-- The series with the points that have a time. -/
def Series.timed (s : Series) : Series :=
  { s with points := s.points.filter fun p => ¬ p.IsMalformed }

/-- What is let through of the answers to queries. -/
structure Sieve where
  samples : List Sample → List Sample
  series : List Series → List Series

namespace Sieve

/-- Lets samples through that tell of a slot at a time. -/
def present : Sieve :=
  ⟨fun samples => samples.filter fun s => ¬ s.IsMalformed, id⟩

/-- Lets samples through that name a process, and of the series the points that have a time. -/
def past : Sieve :=
  ⟨fun samples => samples.filter fun s => ¬ s.IsAnonymous,
    fun series => (series.filter fun s => ¬ s.IsMalformed).map Series.timed⟩

end Sieve

/-- The same collaborators, whose answers to queries have gone through a sieve. -/
def Collaborators.sifted (sieve : Sieve) (ask : Collaborators σ) : Collaborators σ
  | .instant query => do
    let samples : List Sample ← ask (.instant query)
    return sieve.samples samples
  | .range query start stop step => do
    let series : List Series ← ask (.range query start stop step)
    return sieve.series series
  | .read source start options => ask (.read source start options)
  | .org => ask .org
  | .space => ask .space
  | .username => ask .username
  | .spaces => ask .spaces
  | .application name => ask (.application name)

namespace Session

/-- Conversations of the same calls, from states that are the same. -/
def CalledAlike (s t : σ × Conversation) : Prop :=
  s.1 = t.1 ∧ s.2.map Exchange.call = t.2.map Exchange.call

/-- From every state the same result, the same state and the same calls. -/
def RunsAlike (x y : Session (σ × Conversation) α) : Prop :=
  ∀ s, ∃ result s' log log', x.run (s, []) = (result, s', log) ∧ y.run (s, []) = (result, s', log') ∧
    log.map Exchange.call = log'.map Exchange.call

theorem Corresponds.runsAlike {x y : Session (σ × Conversation) α} (h : Corresponds CalledAlike (· = ·) x y) :
    RunsAlike x y := by
  intro s
  obtain ⟨results, state, calls⟩ := h (s, []) (s, []) ⟨rfl, rfl⟩
  rcases ran : x.run (s, []) with ⟨result, s', log⟩
  rcases ran' : y.run (s, []) with ⟨result', s'', log'⟩
  rw [ran, ran'] at results state calls
  cases results.eq
  cases state
  exact ⟨result, s', log, log', rfl, rfl, calls⟩

end Session

namespace Collaborators
variable {σ : Type}

/-- The calls are recorded alike, and the answer to one of them is `f` of the other's. -/
theorem corresponds_recorded {ask ask' : Collaborators σ} {c : Call} {f : c.Answer → c.Answer}
    (told : ∀ s, (ask' c).run s = (ask c >>= fun a => pure (f a)).run s) :
    Corresponds CalledAlike (fun a b => b = f a) (ask.recorded c) (ask'.recorded c) := by
  rintro ⟨s, log⟩ ⟨_, log'⟩ ⟨rfl, calls⟩
  have told := told s
  rcases answer : (ask c).run s with ⟨result, s'⟩
  cases result with
  | ok a =>
    rw [run_bind_ok answer, run_pure] at told
    exact correspondsFrom_of_run (run_recorded answer log) (run_recorded told log') (.ok rfl) ⟨rfl, by simp [calls]⟩
  | error e =>
    rw [run_bind_error answer] at told
    exact correspondsFrom_of_run (run_recorded answer log) (run_recorded told log') .error ⟨rfl, by simp [calls]⟩

theorem corresponds_instant (ask : Collaborators σ) (sieve : Sieve) (query : String) :
    Corresponds CalledAlike (fun samples sifted => sifted = sieve.samples samples)
      (ask.recorded (.instant query) : Session (σ × Conversation) (List Sample))
      ((ask.sifted sieve).recorded (.instant query) : Session (σ × Conversation) (List Sample)) :=
  corresponds_recorded (c := .instant query) (f := sieve.samples) fun _ => rfl

theorem corresponds_range (ask : Collaborators σ) (sieve : Sieve) (query : String) (start stop : Instant) (step : Nat) :
    Corresponds CalledAlike (fun series sifted => sifted = sieve.series series)
      (ask.recorded (.range query start stop step) : Session (σ × Conversation) (List Series))
      ((ask.sifted sieve).recorded (.range query start stop step) : Session (σ × Conversation) (List Series)) :=
  corresponds_recorded (c := .range query start stop step) (f := sieve.series) fun _ => rfl

end Collaborators

/-- Records that are passed over anyway may as well be left out. -/
theorem filterMap_filter_of_none {f : α → Option β} {p : α → Bool} (passed : ∀ a, p a = false → f a = none)
    (as : List α) : (as.filter p).filterMap f = as.filterMap f := by
  rw [List.filterMap_filter]
  apply List.filterMap_congr
  intro a _
  cases kept : p a with
  | true => rfl
  | false => exact (passed a kept).symm

namespace Usage

theorem usage?_eq_none_of_malformed {s : Sample} (malformed : s.IsMalformed) : s.usage? = none := by
  rcases malformed with slot | time
  · simp [Sample.usage?, slot]
  · simp [Sample.usage?, time]

theorem usageOf?_eq_none_of_malformed (instances : Instances) {s : Sample} (malformed : s.IsMalformed) :
    s.usageOf? instances = none := by
  rw [Option.eq_none_iff_forall_ne_some]
  intro u told
  obtain ⟨_, _, _, told⟩ := Sample.usageOf?_eq_some.mp told
  rw [usage?_eq_none_of_malformed malformed] at told
  contradiction

theorem ofSamples_present {accept : Sample → Option UsageSample} (passed : ∀ s, s.IsMalformed → accept s = none)
    (samples : List Sample) : ofSamples accept (Sieve.present.samples samples) = ofSamples accept samples := by
  rw [ofSamples, ofSamples, Sieve.present, filterMap_filter_of_none]
  intro s dropped
  exact passed s (by simpa using dropped)

theorem activeProcesses_past (samples : List Sample) :
    activeProcesses (Sieve.past.samples samples) = activeProcesses samples := by
  rw [activeProcesses, activeProcesses, Sieve.past, filterMap_filter_of_none]
  intro s dropped
  have anonymous : s.IsAnonymous := by simpa using dropped
  exact anonymous

theorem samplesOf_timed (s : Series) (slot : InstanceId) : s.timed.samplesOf slot = s.samplesOf slot := by
  rw [Series.samplesOf, Series.timed, filterMap_filter_of_none]
  · rfl
  · intro p dropped
    have malformed : p.IsMalformed := by simpa using dropped
    rw [malformed]
    rfl

theorem usageOf?_timed (active : List String) (s : Series) : s.timed.usageOf? active = s.usageOf? active := by
  simp only [Series.usageOf?, samplesOf_timed]
  rfl

theorem usageOf?_eq_none_of_series {active : List String} {s : Series} (malformed : s.IsMalformed) :
    s.usageOf? active = none := by
  rcases malformed with slot | process
  · cases named : processOf? s.labels <;> simp [Series.usageOf?, named, slot]
  · simp [Series.usageOf?, process]

theorem ofSeries_past (active : List String) (series : List Series) :
    ofSeries active (Sieve.past.series series) = ofSeries active series := by
  have told : (Sieve.past.series series).filterMap (Series.usageOf? active) =
      series.filterMap (Series.usageOf? active) := by
    rw [Sieve.past, List.filterMap_map]
    simp only [Function.comp_def, usageOf?_timed]
    apply filterMap_filter_of_none
    intro s dropped
    exact usageOf?_eq_none_of_series (by simpa using dropped)
  rw [ofSeries, ofSeries, told]

variable {σ : Type}

theorem corresponds_cumulative_present (ask : Collaborators σ) (guid : String) (instances : Instances) :
    Corresponds CalledAlike (· = ·) (cumulative ask.recorded guid instances)
      (cumulative (ask.sifted .present).recorded guid instances) := by
  apply (ask.corresponds_instant .present (ratioQuery guid)).bind
  rintro samples _ rfl
  rw [ofSamples_present fun s => usage?_eq_none_of_malformed]
  exact corresponds_pure rfl

/-- The fallback is asked on the same grounds, for the rates that count are the same ones. -/
theorem corresponds_current_present (ask : Collaborators σ) (guid : String) (instances : Instances) :
    Corresponds CalledAlike (· = ·) (current ask.recorded (cumulative ask.recorded) guid instances)
      (current (ask.sifted .present).recorded (cumulative (ask.sifted .present).recorded) guid instances) := by
  apply (ask.corresponds_instant .present (rateQuery guid)).bind
  rintro samples _ rfl
  rw [ofSamples_present fun s => usageOf?_eq_none_of_malformed instances]
  by_cases whole : instances.size ≤ (ofSamples (Sample.usageOf? instances) samples).size
  · simp only [if_pos whole]
    exact corresponds_pure rfl
  · simp only [if_neg whole]
    apply (corresponds_cumulative_present ask guid instances).bind
    rintro rest _ rfl
    exact corresponds_pure rfl

theorem corresponds_historical_past (ask : Collaborators σ) (window : Window) (guid : String) (instances : Instances) :
    Corresponds CalledAlike (· = ·) (historical ask.recorded window guid instances)
      (historical (ask.sifted .past).recorded window guid instances) := by
  apply (ask.corresponds_instant .past (ratioQuery guid)).bind
  rintro samples _ rfl
  apply (ask.corresponds_range .past (ratioQuery guid) window.start window.stop historyStepNanos).bind
  rintro series _ rfl
  rw [activeProcesses_past, ofSeries_past]
  exact corresponds_pure rfl

end Usage
end CpuUsage
