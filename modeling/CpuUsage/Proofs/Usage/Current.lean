import CpuUsage.Proofs.Report.Application

/-! What the current usage comes to. A slot has the first rate that its own process has sent, and only a slot without
any takes what the fallback has; the fallback is called exactly when there is such a slot. -/
namespace CpuUsage

/-- The same fetcher, with each call written down beside its state. -/
def Fetcher.recorded (fetch : Fetcher σ) : Fetcher (σ × List (String × Instances)) := fun guid instances s =>
  match fetch guid instances s.1 with
  | (found, s') => (found, s', s.2 ++ [(guid, instances)])

/-- The same collaborators, who do not touch what stands beside their state. -/
def Collaborators.beside (ask : Collaborators σ) (τ : Type) : Collaborators (σ × τ) := fun c s =>
  match ask c s.1 with
  | (answer, s') => (answer, s', s.2)

theorem Fetcher.run_recorded {fetch : Fetcher σ} {guid : String} {instances : Instances} {s s' : σ}
    {found : Except Failure Usage} (ran : (fetch guid instances).run s = (found, s'))
    (log : List (String × Instances)) :
    (fetch.recorded guid instances).run (s, log) = (found, s', log ++ [(guid, instances)]) := by
  rw [Session.run] at ran ⊢
  rw [recorded, ran]

theorem Collaborators.run_beside {ask : Collaborators σ} {c : Call} {s s' : σ} {answer : Except Failure c.Answer}
    (answered : (ask c).run s = (answer, s')) {τ : Type} (t : τ) :
    (ask.beside τ c).run (s, t) = (answer, s', t) := by
  rw [Session.run] at answered ⊢
  rw [beside, answered]

/-- No rate tells of the process that fills the slot. -/
def Usage.Stale (instances : Instances) (rates : List Sample) (slot : InstanceId) : Prop :=
  ∃ i, instances.get? slot = some i ∧ ∀ s ∈ rates, ¬ s.TellsOf slot i.process

/-- The usage that the first rate of a slot and its process tells. -/
def Usage.FirstRate (rates : List Sample) (slot : InstanceId) (process : String) (u : UsageSample) : Prop :=
  ∃ earlier s later, rates = earlier ++ s :: later ∧ (∀ r ∈ earlier, ¬ r.TellsOf slot process) ∧
    s.TellsOf slot process ∧ u.slot = slot ∧ readTime? s.point.time = some u.time ∧ u.value = s.point.value

namespace Usage
variable {instances : Instances} {rates : List Sample} {slot : InstanceId}

/-- Rates where there are any, and the fallback's samples as they are where there are none. -/
structure IsCurrent (instances : Instances) (rates : List Sample) (fallback usage : Usage) : Prop where
  known : ∀ slot, (usage.get? slot).isSome → (instances.get? slot).isSome
  fresh : ∀ slot i, instances.get? slot = some i → (∃ s ∈ rates, s.TellsOf slot i.process) →
    ∃ u, FirstRate rates slot i.process u ∧ usage.get? slot = some [u]
  filled : ∀ slot, Stale instances rates slot → usage.get? slot = fallback.get? slot

theorem exists_stale_iff : (∃ slot, Stale instances rates slot) ↔ ¬ Covers instances rates := by
  simp only [Stale, Covers]
  push Not
  rfl

theorem get?_rates_of_stale (stale : Stale instances rates slot) :
    (ofSamples (Sample.usageOf? instances) rates).get? slot = none := by
  obtain ⟨i, known, silent⟩ := stale
  rw [← Option.not_isSome_iff_eq_none, isSome_get?_rates]
  rintro ⟨i', known', s, member, tells⟩
  cases Option.some.inj (known.symm.trans known')
  exact silent s member tells

/-- Of the rates of a slot and its process the first one counts. -/
theorem get?_rates_of_fresh {i : Instance} (known : instances.get? slot = some i)
    (fresh : ∃ s ∈ rates, s.TellsOf slot i.process) :
    ∃ u, FirstRate rates slot i.process u ∧ (ofSamples (Sample.usageOf? instances) rates).get? slot = some [u] := by
  have accepted_iff (s : Sample) :
      (s.usageOf? instances).any (fun u => decide (u.slot = slot)) = true ↔ s.TellsOf slot i.process := by
    simp only [Option.any_eq_true, decide_eq_true_eq]
    constructor
    · rintro ⟨u, accepted, rfl⟩
      obtain ⟨i', known', tells, _⟩ := Sample.usageOf?_eq_some.mp accepted
      cases Option.some.inj (known.symm.trans known')
      exact tells
    · intro tells
      obtain ⟨u, told, rfl⟩ := Sample.tells_iff.mp tells.tells
      exact ⟨u, Sample.usageOf?_eq_some.mpr ⟨i, known, tells, told⟩, rfl⟩
  obtain ⟨s₀, member, tells₀⟩ := fresh
  have found : (rates.find? fun s => (s.usageOf? instances).any fun u => decide (u.slot = slot)).isSome :=
    List.find?_isSome.mpr ⟨s₀, member, (accepted_iff s₀).mpr tells₀⟩
  obtain ⟨s, first⟩ := Option.isSome_iff_exists.mp found
  obtain ⟨accepted, earlier, later, split, before⟩ := List.find?_eq_some_iff_append.mp first
  obtain ⟨u, told, isSlot⟩ := (Option.any_eq_true _ _).mp accepted
  obtain ⟨_, _, _, whole⟩ := Sample.usageOf?_eq_some.mp told
  simp only [Sample.usage?, Option.bind_eq_bind, Option.bind_eq_some_iff, Option.pure_def, Option.some.injEq] at whole
  obtain ⟨_, _, time, readable, rfl⟩ := whole
  refine ⟨_, ⟨earlier, s, later, split, fun r isEarlier tells => ?_, (accepted_iff s).mp accepted,
    of_decide_eq_true isSlot, readable, rfl⟩, ?_⟩
  · simpa [(accepted_iff r).mpr tells] using before r isEarlier
  · rw [get?_ofSamples, List.find?_filterMap, first, Option.bind_some, told, Option.map_some]

/-- What is not among the rates comes from the fallback, for known slots only. -/
theorem isCurrent_fill (instances : Instances) (rates : List Sample) (fallback : Usage) :
    IsCurrent instances rates fallback
      ((ofSamples (Sample.usageOf? instances) rates).fill fallback instances.keys) := by
  constructor
  · intro slot held
    rw [get?_fill, Option.isSome_or, Bool.or_eq_true] at held
    rcases held with rate | filled
    · obtain ⟨i, known, _⟩ := (isSome_get?_rates instances rates slot).mp rate
      simp [known]
    · split at filled
      · next isKey => exact (SortedMap.mem_keys_iff instances slot).mp isKey
      · contradiction
  · intro slot i known fresh
    obtain ⟨u, first, held⟩ := get?_rates_of_fresh known fresh
    exact ⟨u, first, by rw [get?_fill, held, Option.some_or]⟩
  · intro slot stale
    rw [get?_fill, get?_rates_of_stale stale, Option.none_or]
    obtain ⟨i, known, _⟩ := stale
    rw [if_pos ((SortedMap.mem_keys_iff instances slot).mpr (by simp [known]))]

theorem isCurrent_of_covers (covers : Covers instances rates) (fallback : Usage) :
    IsCurrent instances rates fallback (ofSamples (Sample.usageOf? instances) rates) := by
  constructor
  · intro slot held
    obtain ⟨i, known, _⟩ := (isSome_get?_rates instances rates slot).mp held
    simp [known]
  · exact fun slot i => get?_rates_of_fresh
  · exact fun slot stale => absurd covers (exists_stale_iff.mp ⟨slot, stale⟩)

section
variable {ask : Collaborators σ} (fallback : Fetcher σ) {guid : String} {s s₁ : σ}
  (asked : (ask (.instant (rateQuery guid))).run s = (.ok rates, s₁))
include asked

theorem current_run_of_covers (covers : Covers instances rates) :
    (current ask fallback guid instances).run s = (.ok (ofSamples (Sample.usageOf? instances) rates), s₁) := by
  refine (Session.run_bind_ok asked).trans ?_
  simp only [if_pos ((size_le_ofSamples_iff instances rates).mpr covers), Session.run_pure]

theorem current_run_of_stale (stale : ∃ slot, Stale instances rates slot) :
    (current ask fallback guid instances).run s =
      (fallback guid instances >>= fun rest =>
        pure ((ofSamples (Sample.usageOf? instances) rates).fill rest instances.keys)).run s₁ := by
  have more := mt (size_le_ofSamples_iff instances rates).mp (exists_stale_iff.mp stale)
  refine (Session.run_bind_ok asked).trans ?_
  simp only [if_neg more]

theorem calls_of_covers (covers : Covers instances rates) :
    ((current (ask.beside _) fallback.recorded guid instances).run (s, [])).2.2 = [] := by
  rw [current_run_of_covers _ (Collaborators.run_beside asked []) covers]

theorem calls_of_stale (stale : ∃ slot, Stale instances rates slot) :
    ((current (ask.beside _) fallback.recorded guid instances).run (s, [])).2.2 = [(guid, instances)] := by
  rw [current_run_of_stale _ (Collaborators.run_beside asked []) stale]
  rcases ran : (fallback guid instances).run s₁ with ⟨found, s₂⟩
  have recorded := Fetcher.run_recorded ran []
  cases found with
  | error e => rw [Session.run_bind_error recorded, List.nil_append]
  | ok rest =>
    rw [Session.run_bind_ok recorded]
    rfl

end

/-- The course of a look-up of the current usage at `s`, once the rates are told and the state is `s₁`. -/
structure Decided (ask : Collaborators σ) (fallback : Fetcher σ) (guid : String) (instances : Instances)
    (rates : List Sample) (s s₁ : σ) : Prop where
  called_iff : ((current (ask.beside _) fallback.recorded guid instances).run (s, [])).2.2 = [(guid, instances)] ↔
    ∃ slot, Stale instances rates slot
  spared_iff : ((current (ask.beside _) fallback.recorded guid instances).run (s, [])).2.2 = [] ↔
    ∀ slot, ¬ Stale instances rates slot
  spared : (∀ slot, ¬ Stale instances rates slot) →
    ∃ usage, (current ask fallback guid instances).run s = (.ok usage, s₁) ∧ IsCurrent instances rates .empty usage
  failed : (∃ slot, Stale instances rates slot) → ∀ e s₂, (fallback guid instances).run s₁ = (.error e, s₂) →
    (current ask fallback guid instances).run s = (.error e, s₂)
  filled : (∃ slot, Stale instances rates slot) → ∀ rest s₂, (fallback guid instances).run s₁ = (.ok rest, s₂) →
    ∃ usage, (current ask fallback guid instances).run s = (.ok usage, s₂) ∧ IsCurrent instances rates rest usage

theorem decided_of_asked {ask : Collaborators σ} (fallback : Fetcher σ) {guid : String} {s s₁ : σ}
    (asked : (ask (.instant (rateQuery guid))).run s = (.ok rates, s₁)) :
    Decided ask fallback guid instances rates s s₁ := by
  have covers_iff : Covers instances rates ↔ ∀ slot, ¬ Stale instances rates slot := by
    rw [← not_exists, exists_stale_iff, not_not]
  by_cases stale : ∃ slot, Stale instances rates slot
  · have calls := calls_of_stale fallback asked stale
    have ran := current_run_of_stale fallback asked stale
    refine ⟨by simp [calls, stale], by simpa [calls] using stale, fun none => ?_, fun _ e s₂ failed => ?_,
      fun _ rest s₂ found => ?_⟩
    · exact absurd stale (not_exists.mpr none)
    · rw [ran, Session.run_bind_error failed]
    · rw [ran, Session.run_bind_ok found]
      exact ⟨_, rfl, isCurrent_fill instances rates rest⟩
  · have covers := covers_iff.mpr (not_exists.mp stale)
    have calls := calls_of_covers fallback asked covers
    refine ⟨by simp [calls, stale], by simpa [calls] using stale, fun _ => ?_, fun some => absurd some stale,
      fun some => absurd some stale⟩
    exact ⟨_, current_run_of_covers fallback asked covers, isCurrent_of_covers covers .empty⟩

theorem single_current {ask : Collaborators σ} {guid : String} {s s' : σ} {usage : Usage}
    (found : (current ask (cumulative ask) guid instances).run s = (.ok usage, s')) : usage.Single := by
  obtain ⟨rates, s₁, _, found⟩ := Session.run_bind_eq_ok found
  dsimp only at found
  split at found
  · rw [Session.run_pure] at found
    cases found
    exact single_ofSamples _ rates
  · obtain ⟨rest, s₂, restFound, found⟩ := Session.run_bind_eq_ok found
    obtain ⟨samples, s₃, _, restFound⟩ := Session.run_bind_eq_ok restFound
    rw [Session.run_pure] at found restFound
    cases restFound
    cases found
    exact single_fill (single_ofSamples _ rates) (single_ofSamples _ samples) _

/-- Where a slot never has more than one sample, each sample is reported, whatever the past. -/
theorem reported_of_single {usage : Usage} (single : usage.Single) (past : Usage) {samples : List UsageSample}
    (held : usage.get? slot = some samples) :
    ∃ u r, samples = [u] ∧ r ∈ (InstanceReports.reconcile past usage).values ∧ r.slot = slot ∧
      r.current = ⟨u.value⟩ := by
  have reconciles := InstanceReports.reconciles_reconcile past usage
  obtain ⟨u, rfl⟩ := single slot samples held
  have present : usage.samplesIn slot = [u] := by rw [samplesIn, held, Option.getD_some]
  obtain ⟨r, reported, rfl⟩ := (reconciles.reported_iff slot).mpr (.inr ⟨u, present⟩)
  exact ⟨u, r, rfl, reported, rfl, reconciles.current_of_single r reported u present⟩

/-- The current usage is decided by the rates and by a fallback that is called exactly when a slot has no rate. If the
fallback is the cumulative usage, nothing of the current usage is ambiguous to a report. -/
theorem current_decided {ask : Collaborators σ} (fallback : Fetcher σ) {guid : String} {s s₁ : σ}
    (asked : (ask (.instant (rateQuery guid))).run s = (.ok rates, s₁)) :
    Decided ask fallback guid instances rates s s₁ ∧
    ∀ usage s', (current ask (cumulative ask) guid instances).run s = (.ok usage, s') →
      usage.Single ∧ ∀ past slot samples, usage.get? slot = some samples →
        ∃ u r, samples = [u] ∧ r ∈ (InstanceReports.reconcile past usage).values ∧ r.slot = slot ∧
          r.current = ⟨u.value⟩ := by
  refine ⟨decided_of_asked fallback asked, fun usage s' found => ?_⟩
  have single := single_current found
  exact ⟨single, fun past slot samples => reported_of_single single past⟩

end Usage

/-! Two instances, of which one has sent rates, and a fallback that tells of one slot too many. -/
namespace Usage.Restarted
open InstanceReports

def instances : Instances :=
  .ofList [(0, ⟨0, "new"⟩), (1, ⟨1, "fresh"⟩)]

def rate (slot process time : String) (value : Binary64) : Sample :=
  ⟨.ofList [("instance_id", slot), ("process_instance_id", process)], time, value⟩

/-- The first is of a process that was replaced, and the last cannot be read. -/
def rates : List Sample :=
  [rate "0" "old" "40" .zero, rate "0" "new" "41" .one, rate "0" "new" "42" double, rate "1" "fresh" "soon" double]

def rest : Usage :=
  .ofList [(0, []), (1, [⟨1, second 50, .one⟩, ⟨1, second 51, double⟩]), (7, [⟨7, second 50, .one⟩])]

def store : Collaborators Unit
  | .instant _ => Session.pure rates
  | _ => Session.fail .unanswered

theorem stale : Stale instances rates 1 := by
  refine ⟨⟨1, "fresh"⟩, by decide +kernel, ?_⟩
  simp only [Sample.TellsOf]
  decide +kernel

end Usage.Restarted

namespace Usage

theorem current_decided_restarted : ∃ usage,
    (Restarted.store (.instant (rateQuery "guid"))).run () = (.ok Restarted.rates, ()) ∧
    (current Restarted.store (fun _ _ => pure Restarted.rest) "guid" Restarted.instances).run () = (.ok usage, ()) ∧
    IsCurrent Restarted.instances Restarted.rates Restarted.rest usage ∧
    usage.entries = [(0, [⟨0, InstanceReports.second 41, .one⟩]),
      (1, [⟨1, InstanceReports.second 50, .one⟩, ⟨1, InstanceReports.second 51, InstanceReports.double⟩])] := by
  have asked : (Restarted.store (.instant (rateQuery "guid"))).run () = (.ok Restarted.rates, ()) := rfl
  have decided : Decided Restarted.store (fun _ _ => pure Restarted.rest) "guid" Restarted.instances Restarted.rates () () :=
    (current_decided _ asked).1
  obtain ⟨usage, ran, isCurrent⟩ := decided.filled ⟨1, Restarted.stale⟩ Restarted.rest () rfl
  refine ⟨usage, asked, ran, isCurrent, ?_⟩
  have filled := ran.symm.trans (current_run_of_stale _ asked ⟨1, Restarted.stale⟩)
  have same : usage = (ofSamples (Sample.usageOf? Restarted.instances) Restarted.rates).fill Restarted.rest
      Restarted.instances.keys := Except.ok.inj (congrArg Prod.fst filled)
  rw [same]
  decide +kernel

end Usage
end CpuUsage
