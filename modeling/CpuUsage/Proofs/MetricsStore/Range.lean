import CpuUsage.Proofs.Hint
import CpuUsage.Proofs.MetricsStore.Envelopes
import CpuUsage.Proofs.Program
import CpuUsage.Proofs.Settings.Window

/-! Requests for the past of an application. Whatever the servers answer, a report asks for one window only, the one that
ends at the present time and is as long as the user set it; and the two counts of seconds in the form of such a request
differ by just that length. -/
namespace CpuUsage
open Failure Session

namespace MetricsStore

/-- The segments of a query over a window. -/
def rangeFolder : List (List Char) :=
  [['a', 'p', 'i'], ['v', '1'], ['q', 'u', 'e', 'r', 'y', '_', 'r', 'a', 'n', 'g', 'e']]

def rangeParameters (query : String) (start stop : Instant) (stepNanos : Nat) : Parameters :=
  [("query", query), ("start", toString start.seconds), ("end", toString stop.seconds), ("step", stepText stepNanos)]

def rangeUrl (base : Url) (query : String) (start stop : Instant) (stepNanos : Nat) : Url :=
  { base.withPath (base.folder ++ rangeFolder) with
    query := some (rangeParameters query start stop stepNanos).encode.toList }

theorem resolve_range {base : Url} (http : base.isHttp = true) (hierarchical : base.path.isHierarchical = true) :
    base.resolve "api/v1/query_range" = .ok (base.withPath (base.folder ++ rangeFolder)) := by
  have plain : ∀ segment ∈ rangeFolder, ∀ c ∈ segment, Url.IsPlain c := isPlain_of_all_isGuidChar (by decide)
  exact Url.resolve_plain http hierarchical plain (by decide +kernel)

theorem decode?_rangeUrl (base : Url) (query : String) (start stop : Instant) (stepNanos : Nat) :
    (rangeUrl base query start stop stepNanos).query.bind Parameters.decode? =
      some (rangeParameters query start stop stepNanos) := by
  rw [rangeUrl, Option.bind_some, Parameters.decode?_encode]

section
variable {api : Api} (reachable : api.Reachable) (query : String) (start stop : Instant) (stepNanos : Nat)
include reachable

theorem get_range_eq_fetch (decoder : Decoder α) :
    api.get "api/v1/query_range" (rangeParameters query start stop stepNanos) decoder =
      api.fetch decoder (rangeUrl api.base query start stop stepNanos) := by
  simp only [Api.get, resolve_range reachable.http reachable.hierarchical]
  rw [rangeParameters, Catalog.addParameters_withPath]
  rfl

/-- Whatever the reply, a query over a window sends one request. -/
theorem sent_range (w : Wire) :
    ((range api query start stop stepNanos).run w).2.sent =
      w.sent ++ [api.request (rangeUrl api.base query start stop stepNanos)] := by
  have asked := snd_run_bind_ofExcept
    (MetricsStore.query api "api/v1/query_range" (rangeParameters query start stop stepNanos) rawSeries)
    (fun series => .ok (seriesOf series)) w
  have judged := snd_run_bind_ofExcept
    (api.get "api/v1/query_range" (rangeParameters query start stop stepNanos) (outcome rawSeries)) Outcome.toExcept w
  have fetched := get_range_eq_fetch reachable query start stop stepNanos (outcome rawSeries)
  rw [fetched] at judged
  have sends : api.Sends (rangeUrl api.base query start stop stepNanos) := ⟨reachable.http, reachable.header⟩
  rw [← Api.sent_fetch sends (outcome rawSeries), ← judged, ← fetched]
  exact congrArg Wire.sent asked

end
end MetricsStore

/-- If it is a query over a window, it is one over this window. -/
def Call.IsOver (window : Window) : Call → Prop
  | .range _ start stop stepNanos => start = window.start ∧ stop = window.stop ∧ stepNanos = historyStepNanos
  | _ => True

/-- The same collaborators, who take every query over a window for one over this window. -/
def Collaborators.over (window : Window) (ask : Collaborators σ) : Collaborators σ
  | .range query _ _ _ => ask (.range query window.start window.stop historyStepNanos)
  | .instant query => ask (.instant query)
  | .read source start options => ask (.read source start options)
  | .org => ask .org
  | .space => ask .space
  | .username => ask .username
  | .spaces => ask .spaces
  | .application name => ask (.application name)

theorem Processes.readPages_over (window : Window) (ask : Collaborators σ) (guid : String) (limit pages : Nat)
    (stop : Option Instant) (found : Processes) :
    readPages (ask.over window) guid limit pages stop found = readPages ask guid limit pages stop found := by
  induction pages generalizing stop found with
  | zero => rfl
  | succ pages ih =>
    simp only [readPages, ih]
    rfl

/-- A report asks for no other window than its own. -/
theorem ApplicationReport.create_over (window : Window) (ask : Collaborators σ) (paging : Paging) (name : String) :
    create (ask.over window) paging (Usage.historical (ask.over window) window)
        (Usage.current (ask.over window) (Usage.cumulative (ask.over window))) name =
      create ask paging (Usage.historical ask window) (Usage.current ask (Usage.cumulative ask)) name := by
  simp only [create, Processes.resolve, Processes.readPages_over]
  rfl

/-- What one such call makes of the wire. -/
def Platform.CallsOver (p : Platform) (window : Window) (w w' : Wire) : Prop :=
  ∃ c : Call, c.IsOver window ∧ ((p.ask c).run w).2 = w'

theorem Platform.callsOver_of_ask (p : Platform) (window : Window) (c : Call) :
    Within (p.CallsOver window) (fun _ => True) (p.ask.over window c) := by
  refine ⟨fun w => .single ?_, fun _ _ _ _ => trivial⟩
  cases c with
  | range query start stop stepNanos =>
    exact ⟨.range query window.start window.stop historyStepNanos, ⟨rfl, rfl, rfl⟩, rfl⟩
  | instant query => exact ⟨.instant query, trivial, rfl⟩
  | read source start options => exact ⟨.read source start options, trivial, rfl⟩
  | org => exact ⟨.org, trivial, rfl⟩
  | space => exact ⟨.space, trivial, rfl⟩
  | username => exact ⟨.username, trivial, rfl⟩
  | spaces => exact ⟨.spaces, trivial, rfl⟩
  | application name => exact ⟨.application name, trivial, rfl⟩

/-- Once the window and the interfaces are known, a command makes calls, and none over another window. -/
theorem showApplication_callsOver {s : Settings} {now start : Instant} {p : Platform}
    (begun : s.historyStart now = .ok start) (connected : Platform.ofSettings s = .ok p) (format : OutputFormat)
    (coloured : Bool) (name : String) :
    Within (p.CallsOver ⟨start, now⟩) (fun _ => True) (showApplication s now format coloured name) := by
  rw [showApplication, begun, connected]
  refine (within_ofExcept fun _ _ => trivial).bind fun _ => ?_
  have created := ApplicationReport.within_create (p.callsOver_of_ask ⟨start, now⟩) ⟨s.readLimit, s.readMaxPages⟩
    ⟨start, now⟩ name fun _ => trivial
  rw [ApplicationReport.create_over] at created
  exact created.map _

/-- Whatever is told of the present, the past is asked for by one more call, which is over the window. -/
theorem Usage.snd_run_historical {ask : Collaborators σ} {window : Window} {guid : String} {instances : Instances}
    {s s₁ : σ} {present : List Sample} (told : (ask (.instant (ratioQuery guid))).run s = (.ok present, s₁)) :
    ((historical ask window guid instances).run s).2 =
      ((ask (.range (ratioQuery guid) window.start window.stop historyStepNanos)).run s₁).2 := by
  rw [historical, run_bind_ok told]
  rcases asked : (ask (.range (ratioQuery guid) window.start window.stop historyStepNanos)).run s₁ with ⟨result, s₂⟩
  cases result with
  | ok series => rw [run_bind_ok asked, run_pure]
  | error e => rw [run_bind_error asked]

/-- The request of a call over a window. -/
def Platform.rangeRequest (p : Platform) (guid : String) (window : Window) : Request :=
  p.metrics.request
    (MetricsStore.rangeUrl p.metrics.base (ratioQuery guid) window.start window.stop historyStepNanos)

/-- A report that has instances rests on an answer to the request over its window. -/
theorem Platform.rangeRequest_mem_sent {p : Platform} (reachable : p.metrics.Reachable) {paging : Paging}
    {window : Window} {name : String} {w w' : Wire} {report : ApplicationReport}
    (created : (ApplicationReport.create p.ask paging (Usage.historical p.ask window)
      (Usage.current p.ask (Usage.cumulative p.ask)) name).run w = (.ok report, w'))
    (shown : report.instances ≠ []) : ∃ guid, p.rangeRequest guid window ∈ w'.sent := by
  obtain ⟨org, space, username, a, processes, w₁, _, reported⟩ :=
    ApplicationReport.exists_locates_of_create created
  obtain ⟨past, present, ⟨w₂, pastFound, presentFound⟩, _⟩ :=
    InstanceReports.finds_of_collect (ApplicationReport.collect_of_reportOn reported shown)
  obtain ⟨_, series, between, _, seriesAsked, _⟩ := Usage.answers_of_historical pastFound
  have permits : p.Permits fun _ => True := ⟨fun _ => trivial, fun _ => trivial⟩
  have later : Wire.Steps (fun _ => True) w₂ w' := by
    have steps := (Usage.within_current permits.within_ask (a.withProcesses processes.entries).guid
      (a.withProcesses processes.entries).instances).steps w₂
    rwa [presentFound] at steps
  obtain ⟨made, sent, _⟩ := later.sent_append
  have asked : w₂.sent = between.sent ++ [p.rangeRequest a.guid window] := by
    rw [Platform.rangeRequest, ← MetricsStore.sent_range reachable]
    exact congrArg (fun ran => ran.2.sent) seriesAsked.symm
  refine ⟨a.guid, ?_⟩
  simp [sent, asked]

namespace Settings
open Instant (secondsPerDay)

/-- The length of the history window. -/
def windowSeconds (s : Settings) : Int :=
  s.historyWindowDays * secondsPerDay

/-- The history window that ends then, if there is one: where it begins, and what is asked for it. -/
structure WindowExact (s : Settings) (stop : Instant) : Prop where
  accepted : (∃ start, s.historyStart stop = .ok start) ↔
    1 ≤ s.historyWindowDays ∧ Instant.earliest.toNanos ≤ stop.toNanos - s.windowSeconds * nanosPerSecond
  begins : ∀ start, s.historyStart stop = .ok start →
    start.toNanos = stop.toNanos - s.windowSeconds * nanosPerSecond ∧ start.nanos = stop.nanos
  refused : (∀ start, s.historyStart stop ≠ .ok start) →
    s.historyStart stop = .error (.settings (.invalidHistoryWindow s.historyWindowDays))
  /-- Machine words come to the same, so nothing that they compute wraps around. -/
  words : ∀ days : Int64, days.toInt = s.historyWindowDays →
    wordStart? days stop = (s.historyStart stop).toOption.map fun start => .ofInt start.seconds
  /-- All that the command does on the wire are calls, and none over another window. -/
  calls : ∀ start p, s.historyStart stop = .ok start → Platform.ofSettings s = .ok p → ∀ format coloured name w,
    Relation.ReflTransGen (p.CallsOver ⟨start, stop⟩) w ((showApplication s stop format coloured name).run w).2
  /-- The past is fetched by a call over the window, once the present is known. -/
  fetches : ∀ start (p : Platform) guid instances w w₁ (present : List Sample), s.historyStart stop = .ok start →
    (p.ask (.instant (ratioQuery guid))).run w = (.ok present, w₁) →
    ((Usage.historical p.ask ⟨start, stop⟩ guid instances).run w).2 =
      ((p.ask (.range (ratioQuery guid) start stop historyStepNanos)).run w₁).2
  /-- Where the command shows instances, the request over the window has been sent. -/
  asked : ∀ start p, s.historyStart stop = .ok start → Platform.ofSettings s = .ok p → p.metrics.Reachable →
    ∀ format coloured name w w' text, (showApplication s stop format coloured name).run w = (.ok text, w') →
    ∃ report, (ApplicationReport.create p.ask ⟨s.readLimit, s.readMaxPages⟩ (Usage.historical p.ask ⟨start, stop⟩)
        (Usage.current p.ask (Usage.cumulative p.ask)) name).run w = (.ok report, w') ∧
      text = report.text format coloured ∧
      (report.instances ≠ [] → ∃ guid, p.rangeRequest guid ⟨start, stop⟩ ∈ w'.sent)
  sends : ∀ start (p : Platform) query w, s.historyStart stop = .ok start → p.metrics.Reachable →
    ((p.ask (.range query start stop historyStepNanos)).run w).2.sent =
      w.sent ++ [p.metrics.request (MetricsStore.rangeUrl p.metrics.base query start stop historyStepNanos)]
  form : ∀ start base query, s.historyStart stop = .ok start → ∃ first last : Int,
    (MetricsStore.rangeUrl base query start stop historyStepNanos).query.bind Parameters.decode? =
      some [("query", query), ("start", toString first), ("end", toString last), ("step", "15s")] ∧
    last - first = s.windowSeconds

theorem spansTo_iff {s : Settings} {stop : Instant} (noLeap : stop.nanos < nanosPerSecond) :
    s.SpansTo stop ↔
      1 ≤ s.historyWindowDays ∧ Instant.earliest.toNanos ≤ stop.toNanos - s.windowSeconds * nanosPerSecond := by
  have begins : minSeconds ≤ stop.seconds - s.historyWindowDays * secondsPerDay ↔
      Instant.earliest.toNanos ≤ stop.toNanos - s.windowSeconds * nanosPerSecond := by
    simp only [Instant.toNanos, Instant.earliest, Instant.epoch, windowSeconds, secondsPerDay, nanosPerSecond,
      minSeconds] at noLeap ⊢
    omega
  rw [← begins]
  exact ⟨fun spans => ⟨spans.positive, spans.begins⟩, fun spans => ⟨spans.1, spans.2⟩⟩

theorem window_exact {stop : Instant} (noLeap : stop.nanos < nanosPerSecond) (s : Settings) : s.WindowExact stop where
  accepted := by
    rw [← spansTo_iff noLeap]
    constructor
    · rintro ⟨start, begun⟩
      exact (historyStart_eq_ok_iff.mp begun).1
    · intro spans
      obtain ⟨start, begun, _⟩ := historyStart_of_spansTo spans
      exact ⟨start, begun⟩
  begins := by
    intro start begun
    obtain ⟨_, seconds, nanos⟩ := historyStart_eq_ok_iff.mp begun
    refine ⟨?_, nanos⟩
    simp only [Instant.toNanos, seconds, nanos, windowSeconds, Int.sub_mul]
    omega
  refused := by
    intro unbegun
    refine historyStart_of_not_spansTo fun spans => ?_
    obtain ⟨start, begun, _⟩ := historyStart_of_spansTo spans
    exact unbegun start begun
  words := fun days given => wordStart?_eq given stop
  calls := fun start p begun connected format coloured name =>
    (showApplication_callsOver begun connected format coloured name).steps
  fetches := fun start p guid instances w w₁ present _ told => Usage.snd_run_historical told
  asked := by
    intro start p begun connected reachable format coloured name w w' text shown
    obtain ⟨p', start', report, connected', begun', created, told⟩ := report_of_showApplication shown
    cases connected.symm.trans connected'
    cases begun.symm.trans begun'
    exact ⟨report, created, told, Platform.rangeRequest_mem_sent reachable created⟩
  sends := fun start p query w _ reachable => MetricsStore.sent_range reachable query start stop historyStepNanos w
  form := by
    intro start base query begun
    obtain ⟨_, seconds, _⟩ := historyStart_eq_ok_iff.mp begun
    refine ⟨start.seconds, stop.seconds, ?_, ?_⟩
    · rw [MetricsStore.decode?_rangeUrl]
      have step : MetricsStore.stepText historyStepNanos = "15s" := by decide +kernel
      rw [MetricsStore.rangeParameters, step]
    · rw [seconds, windowSeconds]
      omega

/-! A window that begins with the calendar, half a second after its first instant; and one of a day more. -/
namespace FirstWindow

def stop : Instant :=
  ⟨minSeconds + 31 * secondsPerDay, 500000000, by decide, by decide, by decide, by decide⟩

def start : Instant :=
  { Instant.earliest with nanos := 500000000, nanos_lt := by decide, leap := by decide }

def longer : Settings :=
  { targetSettings with historyWindowDays := 32 }

end FirstWindow

theorem window_exact_firstWindow :
    FirstWindow.stop.nanos < nanosPerSecond ∧
    targetSettings.WindowExact FirstWindow.stop ∧ FirstWindow.longer.WindowExact FirstWindow.stop ∧
    targetSettings.historyStart FirstWindow.stop = .ok FirstWindow.start ∧
    FirstWindow.longer.historyStart FirstWindow.stop = .error (.settings (.invalidHistoryWindow 32)) ∧
    FirstWindow.stop.toNanos - FirstWindow.start.toNanos = targetSettings.windowSeconds * nanosPerSecond := by
  have noLeap : FirstWindow.stop.nanos < nanosPerSecond := by decide
  have exact := window_exact noLeap targetSettings
  have exactLonger := window_exact noLeap FirstWindow.longer
  have begun : targetSettings.historyStart FirstWindow.stop = .ok FirstWindow.start := by rfl
  have outside : ¬ (1 ≤ FirstWindow.longer.historyWindowDays ∧ Instant.earliest.toNanos ≤
      FirstWindow.stop.toNanos - FirstWindow.longer.windowSeconds * nanosPerSecond) := by
    decide
  have unbegun : ∀ start, FirstWindow.longer.historyStart FirstWindow.stop ≠ .ok start :=
    fun start begun => outside (exactLonger.accepted.mp ⟨start, begun⟩)
  refine ⟨noLeap, exact, exactLonger, begun, exactLonger.refused unbegun, ?_⟩
  rw [(exact.begins _ begun).1]
  exact Int.sub_sub_self _ _

end Settings

end CpuUsage
