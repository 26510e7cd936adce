import CpuUsage.Proofs.Processes.Reads
import CpuUsage.Proofs.Report.Instance
import CpuUsage.Proofs.Usage.Fetch
import CpuUsage.Report.Application
import CpuUsage.Report.Fleet

/-! What the reports ask of the store and the catalog, in which order, and how a failure ends it. A whole conversation
is described call by call; `reports_fail_fast` says that each run has one, or breaks off at the first call that fails
and fails as it did. -/
namespace CpuUsage
open Session Processes

def Resolves (envelopes : List Envelope) (slot : InstanceId) (process : String) : Prop :=
  envelopes.findSome? (Envelope.processIn? slot) = some process

theorem resolves_eq (envelopes : List Envelope) :
    Resolves envelopes = fun slot process => (Processes.record .empty envelopes).get? slot = some process := by
  funext slot process
  rw [Resolves, get?_record, SortedMap.get?_empty, Option.none_or]

namespace Application

theorem get?_withProcesses (a : Application) (processes : Processes) (slot : InstanceId) :
    (a.withProcesses processes.entries).instances.get? slot = (processes.get? slot).map fun p => ⟨slot, p⟩ := by
  simp only [withProcesses, SortedMap.ofList, List.foldl_map]
  let place (slot : InstanceId) (process : String) : Instance := ⟨slot, process⟩
  refine (SortedMap.get?_foldl_entries (fun m slot p => m.insert slot (place slot p))
    (fun slot p _ => some (place slot p)) (fun m' k p k' => SortedMap.get?_insert m' k k' (place k p))
    processes .empty slot).trans ?_
  cases processes.get? slot <;> rfl

def Runs (a : Application) (slot : InstanceId) (process : String) : Prop :=
  ∃ i, a.instances.get? slot = some i ∧ i.process = process

theorem runs_withProcesses (a : Application) (processes : Processes) :
    (a.withProcesses processes.entries).Runs = fun slot process => processes.get? slot = some process := by
  funext slot process
  simp [Runs, get?_withProcesses]

theorem isEmpty_iff (a : Application) : a.instances.isEmpty = true ↔ ∀ slot process, ¬ a.Runs slot process := by
  simp [SortedMap.isEmpty_iff, Runs, Option.eq_none_iff_forall_ne_some]

theorem covers_iff (a : Application) (rates : List Sample) :
    Usage.Covers a.instances rates ↔ ∀ slot process, a.Runs slot process → ∃ s ∈ rates, s.TellsOf slot process := by
  constructor
  · rintro covers slot _ ⟨i, known, rfl⟩
    exact covers slot i known
  · intro covers slot i known
    exact covers slot i.process ⟨i, known, rfl⟩

end Application

namespace ApplicationReport

/-- Something in the answers tells of the usage of an instance: a point of the past that counts, a rate of its own
process or a present ratio of its slot. -/
def Known (resolves : InstanceId → String → Prop) (samples : List Sample) (series : List Series)
    (rates rest : List Sample) : Prop :=
  (∃ slot t v, Usage.Accepted samples series slot t v) ∨
    ∃ slot process, resolves slot process ∧ ((∃ s ∈ rates, s.TellsOf slot process) ∨ ∃ s ∈ rest, s.Tells slot)

/-- What is asked about the usage of an application, by the processes that are known, and whether anything is known of
it then. -/
inductive UsageConversation (guid : String) (window : Window) (resolves : InstanceId → String → Prop) :
    Conversation → Prop → Prop where
  /-- Nothing runs, so nothing is asked. -/
  | idle : (∀ slot process, ¬ resolves slot process) → UsageConversation guid window resolves [] True
  /-- Every instance has a rate of its own. -/
  | covered {slot : InstanceId} {process : String} {samples rates : List Sample} {series : List Series} :
      resolves slot process →
      (∀ slot process, resolves slot process → ∃ s ∈ rates, s.TellsOf slot process) →
      UsageConversation guid window resolves
        [⟨.instant (ratioQuery guid), .ok samples⟩,
          ⟨.range (ratioQuery guid) window.start window.stop (15 * nanosPerSecond), .ok series⟩,
          ⟨.instant (rateQuery guid), .ok rates⟩] True
  /-- Some instance has none, and the present ratios are asked for once more. -/
  | filled {slot : InstanceId} {process : String} {samples rates rest : List Sample} {series : List Series} :
      resolves slot process → (∀ s ∈ rates, ¬ s.TellsOf slot process) →
      UsageConversation guid window resolves
        [⟨.instant (ratioQuery guid), .ok samples⟩,
          ⟨.range (ratioQuery guid) window.start window.stop (15 * nanosPerSecond), .ok series⟩,
          ⟨.instant (rateQuery guid), .ok rates⟩,
          ⟨.instant (ratioQuery guid), .ok rest⟩] (Known resolves samples series rates rest)

def Outcome (a : Application) (known : Prop) (result : Except Failure ApplicationReport) : Prop :=
  (known ∧ ∃ report, result = .ok report) ∨
    (¬ known ∧ result = .error (.platform (.unsupportedDeployment a.name)))

/-- The conversation of a report whose calls are all answered: the user's context, the application, from one to the
allowed number of pages, and its usage. -/
def WholeConversation (paging : Paging) (window : Window) (name : String) (log : Conversation)
    (result : Except Failure ApplicationReport) : Prop :=
  ∃ (org space username : String) (a : Application) (reads : List PageRead) (usage : Conversation) (known : Prop),
    log = [⟨.org, .ok org⟩, ⟨.space, .ok space⟩, ⟨.username, .ok username⟩, ⟨.application name, .ok a⟩] ++
      reads.map (·.exchange a.guid (max paging.limit 1)) ++ usage ∧
    1 ≤ reads.length ∧ reads.length ≤ max paging.maxPages 1 ∧
    UsageConversation a.guid window (Resolves (envelopesOf reads)) usage known ∧ Outcome a known result

/-- The usage of an application, as far as its report asks for it. -/
def reportOn (historical current : Fetcher σ) (org space username : String) (a : Application) :
    Session σ ApplicationReport :=
  if a.instances.isEmpty then pure ⟨org, space, username, a.name, []⟩
  else InstanceReports.collect historical current a >>= fun reports =>
    if reports.isEmpty then Session.fail (.platform (.unsupportedDeployment a.name))
    else pure ⟨org, space, username, a.name, reports⟩

theorem conducts_collect (ask : Collaborators σ) (window : Window) (a : Application) :
    Conducts ask (InstanceReports.collect (Usage.historical ask.recorded window)
        (Usage.current ask.recorded (Usage.cumulative ask.recorded)) a)
      (Yields fun log reports => ∃ samples series rates later,
        log = [⟨.instant (ratioQuery a.guid), .ok samples⟩,
          ⟨.range (ratioQuery a.guid) window.start window.stop historyStepNanos, .ok series⟩,
          ⟨.instant (rateQuery a.guid), .ok rates⟩] ++ later ∧
        ((Usage.Covers a.instances rates ∧ later = [] ∧ (reports = [] → ∀ slot process, ¬ a.Runs slot process)) ∨
          (¬ Usage.Covers a.instances rates ∧ ∃ rest, later = [⟨.instant (ratioQuery a.guid), .ok rest⟩] ∧
            (reports ≠ [] ↔ Known a.Runs samples series rates rest)))) := by
  apply ((Usage.conducts_historical ask window a.guid a.instances).bind fun past =>
    (Usage.conducts_current (Usage.conducts_cumulative ask a.guid a.instances)).bind fun present =>
      conducts_pure (InstanceReports.reconcile past present).values).mono
  rintro log result ⟨_, past, _, rfl, ⟨samples, series, rfl, rfl⟩, _, present, _, rfl, ⟨rates, later, rfl, outcome⟩,
    reports, rfl, rfl, rfl⟩
  refine ⟨_, rfl, samples, series, rates, later, by simp, ?_⟩
  rcases outcome with ⟨covers, rfl, rfl⟩ | ⟨uncovered, _, ⟨rest, rfl, rfl⟩, rfl⟩
  · refine .inl ⟨covers, rfl, ?_⟩
    rintro noReport slot process ⟨i, known, rfl⟩
    have told := (Usage.isSome_get?_rates a.instances rates slot).mpr ⟨i, known, covers slot i known⟩
    have single := Usage.single_ofSamples (Sample.usageOf? a.instances) rates
    exact (InstanceReports.reconcile_ne_nil_iff single).mpr (.inr ⟨slot, told⟩) noReport
  · refine .inr ⟨uncovered, rest, rfl, ?_⟩
    have single := Usage.single_fill (Usage.single_ofSamples (Sample.usageOf? a.instances) rates)
      (Usage.single_ofSamples Sample.usage? rest) a.instances.keys
    refine (InstanceReports.reconcile_ne_nil_iff single).trans (or_congr Iff.rfl ?_)
    constructor
    · rintro ⟨slot, filled⟩
      obtain ⟨i, known, told⟩ := (Usage.isSome_get?_filled a.instances rates rest slot).mp filled
      exact ⟨slot, i.process, ⟨i, known, rfl⟩, told⟩
    · rintro ⟨slot, _, ⟨i, known, rfl⟩, told⟩
      exact ⟨slot, (Usage.isSome_get?_filled a.instances rates rest slot).mpr ⟨i, known, told⟩⟩

theorem conducts_reportOn (ask : Collaborators σ) (window : Window) (org space username : String) (a : Application) :
    Conducts ask (reportOn (Usage.historical ask.recorded window)
        (Usage.current ask.recorded (Usage.cumulative ask.recorded)) org space username a)
      fun log result => ∃ known, UsageConversation a.guid window a.Runs log known ∧ Outcome a known result := by
  unfold reportOn
  split
  · next empty =>
    apply (conducts_pure _).mono
    rintro log result ⟨report, rfl, rfl, _⟩
    exact ⟨True, .idle (a.isEmpty_iff.mp empty), .inl ⟨trivial, report, rfl⟩⟩
  · next running =>
    rw [a.isEmpty_iff] at running
    push Not at running
    obtain ⟨slot, process, runs⟩ := running
    have afterUsage (reports : List InstanceReport) : Conducts ask
        (if reports.isEmpty then Session.fail (.platform (.unsupportedDeployment a.name))
        else pure ⟨org, space, username, a.name, reports⟩)
        (fun log (result : Except Failure ApplicationReport) => log = [] ∧ Outcome a (reports ≠ []) result) := by
      split
      · next none =>
        apply (conducts_fail _).mono
        rintro log result ⟨rfl, rfl⟩
        exact ⟨rfl, .inr ⟨by simpa using none, rfl⟩⟩
      · next some =>
        apply (conducts_pure _).mono
        rintro log result ⟨report, rfl, rfl, _⟩
        exact ⟨rfl, .inl ⟨by simpa using some, report, rfl⟩⟩
    apply ((conducts_collect ask window _).bind afterUsage).mono
    rintro log result ⟨_, reports, _, rfl, ⟨samples, series, rates, later, rfl, asked⟩, rfl, outcome⟩
    rw [a.covers_iff] at asked
    rw [List.append_nil]
    rcases asked with ⟨covers, rfl, anyReport⟩ | ⟨uncovered, rest, rfl, anyReport⟩
    · have reported : reports ≠ [] := fun none => anyReport none slot process runs
      exact ⟨True, .covered runs covers, by simpa [Outcome, reported] using outcome⟩
    · push Not at uncovered
      obtain ⟨slot, process, runs, untold⟩ := uncovered
      rw [anyReport] at outcome
      exact ⟨_, .filled runs untold, outcome⟩

theorem conducts_reportOn_withProcesses (ask : Collaborators σ) (window : Window) (org space username : String)
    (a : Application) (processes : Processes) :
    Conducts ask (reportOn (Usage.historical ask.recorded window)
        (Usage.current ask.recorded (Usage.cumulative ask.recorded)) org space username
        (a.withProcesses processes.entries))
      fun log result => ∃ known, UsageConversation a.guid window (fun slot process => processes.get? slot = some process)
        log known ∧ Outcome a known result := by
  rw [← a.runs_withProcesses]
  exact conducts_reportOn ask window org space username (a.withProcesses processes.entries)

theorem conducts_create (ask : Collaborators σ) (paging : Paging) (window : Window) (name : String) :
    Conducts ask (create ask.recorded paging (Usage.historical ask.recorded window)
        (Usage.current ask.recorded (Usage.cumulative ask.recorded)) name)
      (WholeConversation paging window name) := by
  apply ((conducts_ask .org).bind fun org => (conducts_ask .space).bind fun space =>
    (conducts_ask .username).bind fun username => (conducts_ask (.application name)).bind fun a : Application =>
      (conducts_resolve ask paging a.guid).bind fun processes =>
        conducts_reportOn_withProcesses ask window org space username a processes).mono
  rintro log result ⟨_, org, _, rfl, rfl, _, space, _, rfl, rfl, _, username, _, rfl, rfl, _, a, _, rfl, rfl, _,
    processes, usage, rfl, ⟨reads, isReads, rfl, rfl⟩, known, talk, outcome⟩
  rw [← resolves_eq] at talk
  exact ⟨org, space, username, a, reads, usage, known, by simp [Paging.pageSize],
    isReads.length_pos (Nat.le_max_right ..), isReads.length_le, talk, outcome⟩

end ApplicationReport

namespace FleetReport

/-- The conversation of a fleet report whose calls are all answered: the user's context and the spaces, then the
present ratios of every application, in the order in which they are listed. -/
def WholeConversation (log : Conversation) (result : Except Failure FleetReport) : Prop :=
  ∃ (org username : String) (spaces : List Space) (usage : Conversation),
    log = [⟨.org, .ok org⟩, ⟨.username, .ok username⟩, ⟨.spaces, .ok spaces⟩] ++ usage ∧
    usage.map Exchange.call = (spaces.flatMap Space.applications).map (fun a => .instant (ratioQuery a.guid)) ∧
    ∃ report, result = .ok report

theorem conducts_exceeding (ask : Collaborators σ) (pairs : List (String × Application)) :
    Conducts ask (exceeding (Usage.cumulative ask.recorded) pairs) (Yields fun log _ =>
      log.map Exchange.call = pairs.map fun p => .instant (ratioQuery p.2.guid)) := by
  induction pairs with
  | nil =>
    apply (conducts_pure _).mono
    rintro log result ⟨_, rfl, rfl, rfl⟩
    exact ⟨_, rfl, rfl⟩
  | cons p rest ih =>
    apply ((Usage.conducts_cumulative ask p.2.guid p.2.instances).bind fun usage =>
      ih.bind fun others => conducts_pure (if usage.exceeds then (p.1, p.2.name) :: others else others)).mono
    rintro log result ⟨_, usage, _, rfl, ⟨samples, rfl, rfl⟩, said, others, _, rfl, asked, _, rfl, rfl, rfl⟩
    exact ⟨_, rfl, by simp [asked]⟩

theorem map_placements (spaces : List Space) : (placements spaces).map (·.2) = spaces.flatMap Space.applications := by
  simp only [placements, List.map_flatMap, List.map_map, Function.comp_def, List.map_id']

theorem conducts_create (ask : Collaborators σ) :
    Conducts ask (create ask.recorded (Usage.cumulative ask.recorded)) WholeConversation := by
  apply ((conducts_ask .org).bind fun org => (conducts_ask .username).bind fun username =>
    (conducts_ask .spaces).bind fun spaces : List Space => (conducts_exceeding ask (placements spaces)).bind fun pairs =>
      conducts_pure (⟨org, username, SpaceReport.group pairs⟩ : FleetReport)).mono
  rintro log result ⟨_, org, _, rfl, rfl, _, username, _, rfl, rfl, _, spaces, _, rfl, rfl, usage, pairs, _, rfl, asked,
    report, rfl, rfl, _⟩
  refine ⟨org, username, spaces, usage, by simp, ?_, report, rfl⟩
  have listed := congrArg (List.map fun a : Application => Call.instant (ratioQuery a.guid)) (map_placements spaces)
  rw [List.map_map] at listed
  exact asked.trans listed

end FleetReport

/-- Both reports ask step by step and stop at the first call that fails. The failure of a call is the failure of the
report; the only other one is that of an application about whose running instances nothing is known. -/
theorem reports_fail_fast (ask : Collaborators σ) (paging : Paging) (window : Window) (name : String) (s : σ) :
    (∃ log result s', (ApplicationReport.create ask.recorded paging (Usage.historical ask.recorded window)
          (Usage.current ask.recorded (Usage.cumulative ask.recorded)) name).run (s, []) = (result, s', log) ∧
        FailFast (ApplicationReport.WholeConversation paging window name) log result ∧
        (∀ c e, ⟨c, .error e⟩ ∈ log → log.getLast? = some ⟨c, .error e⟩ ∧ result = .error e) ∧
        ∀ e, result = .error e → (∃ c, log.getLast? = some ⟨c, .error e⟩) ∨
          log.Answered ∧ ∃ a : Application, ⟨.application name, .ok a⟩ ∈ log ∧
            e = .platform (.unsupportedDeployment a.name)) ∧
      ∃ log result s', (FleetReport.create ask.recorded (Usage.cumulative ask.recorded)).run (s, []) =
          (result, s', log) ∧
        FailFast FleetReport.WholeConversation log result ∧
        (∀ c e, ⟨c, .error e⟩ ∈ log → log.getLast? = some ⟨c, .error e⟩ ∧ result = .error e) ∧
        ∀ e, result = .error e → ∃ c, log.getLast? = some ⟨c, .error e⟩ := by
  constructor
  · obtain ⟨log, result, s', ran, failFast, _⟩ := (ApplicationReport.conducts_create ask paging window name).course s []
    refine ⟨log, result, s', ran, failFast, fun c e failed => failFast.failed_last failed, ?_⟩
    rintro e rfl
    rcases failFast.failure_cause with called |
      ⟨answered, org, space, username, a, reads, usage, known, rfl, _, _, _, outcome⟩
    · exact .inl called
    · rcases outcome with ⟨_, report, ok⟩ | ⟨_, failed⟩
      · contradiction
      · exact .inr ⟨answered, a, by simp, Except.error.inj failed⟩
  · obtain ⟨log, result, s', ran, failFast, _⟩ := (FleetReport.conducts_create ask).course s []
    refine ⟨log, result, s', ran, failFast, fun c e failed => failFast.failed_last failed, ?_⟩
    rintro e rfl
    rcases failFast.failure_cause with called | ⟨_, _, _, _, _, _, _, report, ok⟩
    · exact called
    · contradiction

/-- One instance runs, and nobody knows of its usage. -/
def silent : Collaborators Unit
  | .org => Session.pure "org"
  | .space => Session.pure "space"
  | .username => Session.pure "me"
  | .application name => Session.pure (.new name "guid")
  | .read .. => Session.pure [⟨"guid", "0", "20", .ofList [("process_instance_id", "p")], .empty⟩]
  | .instant _ => Session.pure ([] : List Sample)
  | .range .. => Session.pure ([] : List Series)
  | .spaces => Session.pure ([] : List Space)

theorem silent_unsupported : ∃ log : Conversation,
    (ApplicationReport.create silent.recorded .default (Usage.historical silent.recorded ⟨.epoch, .epoch⟩)
        (Usage.current silent.recorded (Usage.cumulative silent.recorded)) "web").run ((), []) =
      (.error (.platform (.unsupportedDeployment "web")), (), log) ∧ log.Answered := by
  refine ⟨_, rfl, ?_⟩
  simp only [List.nil_append, List.cons_append, Conversation.answered_cons]
  exact ⟨⟨_, rfl⟩, ⟨_, rfl⟩, ⟨_, rfl⟩, ⟨_, rfl⟩, ⟨_, rfl⟩, ⟨_, rfl⟩, ⟨_, rfl⟩, ⟨_, rfl⟩, ⟨_, rfl⟩, Conversation.answered_nil⟩

end CpuUsage
