import CpuUsage.Proofs.Conversation
import CpuUsage.Proofs.SortedMap
import CpuUsage.Usage.Current
import CpuUsage.Usage.Historical

/-! What each way of finding usage asks and what it makes of the answers. The current usage asks its fallback exactly
when some instance has no rate that its own process has sent at a readable time. -/
namespace CpuUsage

/-- A sample that tells, at a readable time, of a slot. -/
def Sample.Tells (s : Sample) (slot : InstanceId) : Prop :=
  slotOf? s.labels = some slot ∧ (readTime? s.point.time).isSome

def Sample.TellsOf (s : Sample) (slot : InstanceId) (process : String) : Prop :=
  slotOf? s.labels = some slot ∧ processOf? s.labels = some process ∧ (readTime? s.point.time).isSome

theorem Sample.usageOf?_eq_some {instances : Instances} {s : Sample} {u : UsageSample} :
    s.usageOf? instances = some u ↔
      ∃ i, instances.get? u.slot = some i ∧ s.TellsOf u.slot i.process ∧ s.usage? = some u := by
  simp only [usageOf?, Option.bind_eq_bind, Option.bind_eq_some_iff, TellsOf]
  constructor
  · rintro ⟨slot, label, i, known, told⟩
    split at told
    · next current =>
      have whole := told
      simp only [usage?, Option.bind_eq_bind, Option.bind_eq_some_iff, Option.pure_def, Option.some.injEq] at told
      obtain ⟨_, label', time, readable, rfl⟩ := told
      cases Option.some.inj (label.symm.trans label')
      exact ⟨i, known, ⟨label, current, by simp [readable]⟩, whole⟩
    · contradiction
  · rintro ⟨i, known, ⟨label, current, _⟩, told⟩
    exact ⟨u.slot, label, i, known, by rw [if_pos current]; exact told⟩

theorem Sample.tells_iff {s : Sample} {slot : InstanceId} : s.Tells slot ↔ ∃ u, s.usage? = some u ∧ u.slot = slot := by
  simp only [Tells, usage?, Option.bind_eq_bind, Option.bind_eq_some_iff, Option.isSome_iff_exists, Option.pure_def,
    Option.some.injEq]
  constructor
  · rintro ⟨label, time, readable⟩
    exact ⟨_, ⟨slot, label, time, readable, rfl⟩, rfl⟩
  · rintro ⟨_, ⟨slot, label, time, readable, rfl⟩, rfl⟩
    exact ⟨label, time, readable⟩

theorem Sample.TellsOf.tells {s : Sample} {slot : InstanceId} {process : String} (h : s.TellsOf slot process) :
    s.Tells slot :=
  ⟨h.1, h.2.2⟩

namespace Usage

theorem get?_ofSamples (accept : Sample → Option UsageSample) (samples : List Sample) (slot : InstanceId) :
    (ofSamples accept samples).get? slot =
      ((samples.filterMap accept).find? fun u => u.slot = slot).map fun u => [u] := by
  refine (SortedMap.get?_foldl_insertNew UsageSample.slot (fun u => [u]) _ .empty slot).trans ?_
  rw [SortedMap.get?_empty, Option.none_or]

theorem isSome_get?_ofSamples (accept : Sample → Option UsageSample) (samples : List Sample) (slot : InstanceId) :
    ((ofSamples accept samples).get? slot).isSome ↔ ∃ s ∈ samples, ∃ u, accept s = some u ∧ u.slot = slot := by
  simp only [get?_ofSamples, Option.isSome_map, List.find?_isSome, List.mem_filterMap, decide_eq_true_eq]
  constructor
  · rintro ⟨u, ⟨s, member, accepted⟩, same⟩
    exact ⟨s, member, u, accepted, same⟩
  · rintro ⟨s, member, u, accepted, same⟩
    exact ⟨u, ⟨s, member, accepted⟩, same⟩

theorem isSome_get?_present (samples : List Sample) (slot : InstanceId) :
    ((ofSamples Sample.usage? samples).get? slot).isSome ↔ ∃ s ∈ samples, s.Tells slot := by
  simp only [isSome_get?_ofSamples, Sample.tells_iff]

theorem isSome_get?_rates (instances : Instances) (rates : List Sample) (slot : InstanceId) :
    ((ofSamples (Sample.usageOf? instances) rates).get? slot).isSome ↔
      ∃ i, instances.get? slot = some i ∧ ∃ s ∈ rates, s.TellsOf slot i.process := by
  rw [isSome_get?_ofSamples]
  constructor
  · rintro ⟨s, member, u, accepted, rfl⟩
    obtain ⟨i, known, tells, _⟩ := Sample.usageOf?_eq_some.mp accepted
    exact ⟨i, known, s, member, tells⟩
  · rintro ⟨i, known, s, member, tells⟩
    obtain ⟨u, told, rfl⟩ := Sample.tells_iff.mp tells.tells
    exact ⟨s, member, u, Sample.usageOf?_eq_some.mpr ⟨i, known, tells, told⟩, rfl⟩

def Single (usage : Usage) : Prop :=
  ∀ slot samples, usage.get? slot = some samples → ∃ u, samples = [u]

theorem single_ofSamples (accept : Sample → Option UsageSample) (samples : List Sample) :
    (ofSamples accept samples).Single := by
  intro slot held present
  rw [get?_ofSamples, Option.map_eq_some_iff] at present
  obtain ⟨u, _, rfl⟩ := present
  exact ⟨u, rfl⟩

/-- What is there stays; of the slots that are asked for, the missing ones come from the fallback. -/
theorem get?_fill (usage fallback : Usage) (slots : List InstanceId) (slot : InstanceId) :
    (usage.fill fallback slots).get? slot =
      (usage.get? slot).or (if slot ∈ slots then fallback.get? slot else none) := by
  rw [fill]
  induction slots generalizing usage with
  | nil => simp
  | cons k rest ih =>
    rw [List.foldl_cons, ih]
    by_cases same : slot = k
    · subst same
      cases held : fallback.get? slot <;> simp [SortedMap.get?_insertNew]
    · cases fallback.get? k <;> simp [SortedMap.get?_insertNew, same]

theorem single_fill {usage fallback : Usage} (single : usage.Single) (fallbackSingle : fallback.Single)
    (slots : List InstanceId) : (usage.fill fallback slots).Single := by
  intro slot samples held
  rw [get?_fill, Option.or_eq_some_iff] at held
  rcases held with present | ⟨_, filled⟩
  · exact single slot samples present
  · split at filled
    · exact fallbackSingle slot samples filled
    · contradiction

def Covers (instances : Instances) (rates : List Sample) : Prop :=
  ∀ slot i, instances.get? slot = some i → ∃ s ∈ rates, s.TellsOf slot i.process

/-- Counting slots is enough to see that none is missing, for only known slots are counted. -/
theorem size_le_ofSamples_iff (instances : Instances) (rates : List Sample) :
    instances.size ≤ (ofSamples (Sample.usageOf? instances) rates).size ↔ Covers instances rates := by
  rw [SortedMap.size_le_iff_of_keys]
  · simp only [isSome_get?_rates]
    constructor
    · intro all slot i known
      obtain ⟨i', known', told⟩ := all slot (by simp [known])
      cases Option.some.inj (known.symm.trans known')
      exact told
    · intro covers slot isKnown
      obtain ⟨i, known⟩ := Option.isSome_iff_exists.mp isKnown
      exact ⟨i, known, covers slot i known⟩
  · intro slot counted
    obtain ⟨i, known, _⟩ := (isSome_get?_rates _ _ _).mp counted
    simp [known]

/-- The present is known of the instances that a rate tells of, or else a ratio. -/
theorem isSome_get?_filled (instances : Instances) (rates rest : List Sample) (slot : InstanceId) :
    (((ofSamples (Sample.usageOf? instances) rates).fill (ofSamples Sample.usage? rest)
        instances.keys).get? slot).isSome ↔
      ∃ i, instances.get? slot = some i ∧ ((∃ s ∈ rates, s.TellsOf slot i.process) ∨ ∃ s ∈ rest, s.Tells slot) := by
  rw [get?_fill, Option.isSome_or, Bool.or_eq_true, isSome_get?_rates]
  constructor
  · rintro (⟨i, known, told⟩ | filled)
    · exact ⟨i, known, .inl told⟩
    · split at filled
      · next isKey =>
        obtain ⟨i, known⟩ := Option.isSome_iff_exists.mp ((SortedMap.mem_keys_iff _ _).mp isKey)
        exact ⟨i, known, .inr ((isSome_get?_present rest slot).mp filled)⟩
      · contradiction
  · rintro ⟨i, known, told | told⟩
    · exact .inl ⟨i, known, told⟩
    · rw [if_pos ((SortedMap.mem_keys_iff _ _).mpr (by simp [known]))]
      exact .inr ((isSome_get?_present rest slot).mpr told)

theorem answers_of_historical {ask : Collaborators σ} {window : Window} {guid : String} {instances : Instances} {s s' : σ}
    {past : Usage} (found : (historical ask window guid instances).run s = (.ok past, s')) :
    ∃ (present : List Sample) (series : List Series) (between : σ),
      (ask (.instant (ratioQuery guid))).run s = (.ok present, between) ∧
      (ask (.range (ratioQuery guid) window.start window.stop historyStepNanos)).run between = (.ok series, s') ∧
      past = ofSeries (activeProcesses present) series := by
  obtain ⟨present, between, presentAsked, found⟩ := Session.run_bind_eq_ok found
  obtain ⟨series, _, seriesAsked, found⟩ := Session.run_bind_eq_ok found
  rw [Session.run_pure] at found
  cases found
  exact ⟨present, series, between, presentAsked, seriesAsked, rfl⟩

theorem conducts_cumulative (ask : Collaborators σ) (guid : String) (instances : Instances) :
    Session.Conducts ask (cumulative ask.recorded guid instances) (Session.Yields fun log usage =>
      ∃ samples, log = [⟨.instant (ratioQuery guid), .ok samples⟩] ∧ usage = ofSamples Sample.usage? samples) := by
  apply ((Session.conducts_ask (.instant (ratioQuery guid))).bind fun samples : List Sample =>
    Session.conducts_pure (ofSamples Sample.usage? samples)).mono
  rintro log result ⟨_, samples, _, rfl, rfl, _, rfl, rfl, rfl⟩
  exact ⟨_, rfl, samples, rfl, rfl⟩

theorem conducts_historical (ask : Collaborators σ) (window : Window) (guid : String) (instances : Instances) :
    Session.Conducts ask (historical ask.recorded window guid instances) (Session.Yields fun log usage =>
      ∃ samples series, log = [⟨.instant (ratioQuery guid), .ok samples⟩,
          ⟨.range (ratioQuery guid) window.start window.stop historyStepNanos, .ok series⟩] ∧
        usage = ofSeries (activeProcesses samples) series) := by
  apply ((Session.conducts_ask (.instant (ratioQuery guid))).bind fun samples : List Sample =>
    (Session.conducts_ask (.range (ratioQuery guid) window.start window.stop historyStepNanos)).bind
      fun series : List Series => Session.conducts_pure (ofSeries (activeProcesses samples) series)).mono
  rintro log result ⟨_, samples, _, rfl, rfl, _, series, _, rfl, rfl, _, rfl, rfl, rfl⟩
  exact ⟨_, rfl, samples, series, rfl, rfl⟩

/-- The rates come first; the fallback is asked if they do not cover all instances, and not otherwise. -/
theorem conducts_current {ask : Collaborators σ} {fallback : Fetcher (σ × Conversation)} {guid : String}
    {instances : Instances} {course : Conversation → Usage → Prop}
    (fallbackConducts : Session.Conducts ask (fallback guid instances) (Session.Yields course)) :
    Session.Conducts ask (current ask.recorded fallback guid instances) (Session.Yields fun log usage =>
      ∃ rates later, log = ⟨.instant (rateQuery guid), .ok rates⟩ :: later ∧
        ((Covers instances rates ∧ later = [] ∧ usage = ofSamples (Sample.usageOf? instances) rates) ∨
          (¬ Covers instances rates ∧ ∃ rest, course later rest ∧
            usage = (ofSamples (Sample.usageOf? instances) rates).fill rest instances.keys))) := by
  have afterRates (rates : List Sample) : Session.Conducts ask
      (if instances.size ≤ (ofSamples (Sample.usageOf? instances) rates).size then
        pure (ofSamples (Sample.usageOf? instances) rates)
      else fallback guid instances >>= fun rest =>
        pure ((ofSamples (Sample.usageOf? instances) rates).fill rest instances.keys))
      (Session.Yields fun later usage =>
        (Covers instances rates ∧ later = [] ∧ usage = ofSamples (Sample.usageOf? instances) rates) ∨
          (¬ Covers instances rates ∧ ∃ rest, course later rest ∧
            usage = (ofSamples (Sample.usageOf? instances) rates).fill rest instances.keys)) := by
    split
    · next small =>
      have covers := (size_le_ofSamples_iff instances rates).mp small
      apply (Session.conducts_pure _).mono
      rintro log result ⟨_, rfl, rfl, rfl⟩
      exact ⟨_, rfl, .inl ⟨covers, rfl, rfl⟩⟩
    · next more =>
      have uncovered := mt (size_le_ofSamples_iff instances rates).mpr more
      apply (fallbackConducts.bind fun rest => Session.conducts_pure _).mono
      rintro log result ⟨said, rest, _, rfl, told, _, rfl, rfl, rfl⟩
      exact ⟨_, rfl, .inr ⟨uncovered, rest, by simpa using told, rfl⟩⟩
  apply ((Session.conducts_ask (.instant (rateQuery guid))).bind afterRates).mono
  rintro log result ⟨_, rates, later, rfl, rfl, usage, rfl, outcome⟩
  exact ⟨usage, rfl, rates, later, rfl, outcome⟩

end Usage
end CpuUsage
