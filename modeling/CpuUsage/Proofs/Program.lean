import CpuUsage.Program
import CpuUsage.Proofs.Api
import CpuUsage.Proofs.Report.Table

/-! What the program shows, traced back to what its servers answered. -/
namespace CpuUsage
open InstanceReports ApplicationReport

/-- The store's answers on the past of an application, once that is located: the ratios of the present and of the
window. -/
def PastAnswered (ask : Collaborators σ) (paging : Paging) (window : Window) (name : String) (s : σ)
    (present : List Sample) (series : List Series) : Prop :=
  ∃ org space username a processes s₁ s₂ s₃, Locates ask paging name s org space username a processes s₁ ∧
    (ask (.instant (ratioQuery a.guid))).run s₁ = (.ok present, s₂) ∧
    (ask (.range (ratioQuery a.guid) window.start window.stop historyStepNanos)).run s₂ = (.ok series, s₃)

theorem Platform.surfaces_of_create {p : Platform} {paging : Paging} {window : Window} {current : Fetcher Wire}
    {name : String} {w w' : Wire} {report : ApplicationReport}
    (created : (ApplicationReport.create p.ask paging (Usage.historical p.ask window) current name).run w =
      (.ok report, w')) :
    ∃ present series, (report.instances ≠ [] → PastAnswered p.ask paging window name w present series) ∧
      report.Surfaces (Usage.Accepted present series) := by
  obtain ⟨org, space, username, a, processes, w₁, located, reported⟩ := exists_locates_of_create created
  by_cases empty : report.instances = []
  -- Nothing may have been asked then; with no instances, any answers will do.
  · have idle : report.instances =
        (reconcile (Usage.ofSeries (Usage.activeProcesses []) []) .empty).values := empty
    exact ⟨[], [], fun nonempty => absurd empty nonempty, surfaces_of_reconcile (by simp) idle⟩
  · obtain ⟨past, present', ⟨w₃, pastFound, _⟩, instances⟩ := finds_of_collect (collect_of_reportOn reported empty)
    obtain ⟨present, series, w₂, presentAsked, seriesAsked, rfl⟩ := Usage.answers_of_historical pastFound
    have finite := MetricsStore.isFinite_of_range seriesAsked
    refine ⟨present, series, fun _ => ?_, surfaces_of_reconcile finite instances⟩
    exact ⟨org, space, username, a, processes, w₁, w₂, w₃, located, presentAsked, seriesAsked⟩

theorem showApplication_run {s : Settings} {now start : Instant} {space name : String} {p : Platform}
    {report : ApplicationReport} {w w' : Wire} (spaceSet : s.targetSpace = .ok space)
    (startSet : s.historyStart now = .ok start) (platformSet : Platform.ofSettings s = .ok p)
    (created : (ApplicationReport.create p.ask ⟨s.readLimit, s.readMaxPages⟩ (Usage.historical p.ask ⟨start, now⟩)
      (Usage.current p.ask (Usage.cumulative p.ask)) name).run w = (.ok report, w'))
    (format : OutputFormat) (coloured : Bool) :
    (showApplication s now format coloured name).run w = (.ok (report.text format coloured), w') := by
  rw [showApplication, spaceSet, startSet, platformSet]
  exact Session.run_bind_ok created

theorem report_of_showApplication {s : Settings} {now : Instant} {format : OutputFormat} {coloured : Bool}
    {name text : String} {w w' : Wire} (shown : (showApplication s now format coloured name).run w = (.ok text, w')) :
    ∃ p start report, Platform.ofSettings s = .ok p ∧ s.historyStart now = .ok start ∧
      (ApplicationReport.create p.ask ⟨s.readLimit, s.readMaxPages⟩ (Usage.historical p.ask ⟨start, now⟩)
        (Usage.current p.ask (Usage.cumulative p.ask)) name).run w = (.ok report, w') ∧
      text = report.text format coloured := by
  obtain ⟨_, w₁, spaceSet, started⟩ := Session.run_bind_eq_ok shown
  obtain ⟨start, w₂, startSet, connected⟩ := Session.run_bind_eq_ok started
  obtain ⟨p, w₃, platformSet, reported⟩ := Session.run_bind_eq_ok connected
  obtain ⟨report, w₄, created, printed⟩ := Session.run_bind_eq_ok reported
  rw [Session.run_ofExcept, Prod.mk.injEq] at spaceSet startSet platformSet
  obtain ⟨_, rfl⟩ := spaceSet
  obtain ⟨startSet, rfl⟩ := startSet
  obtain ⟨platformSet, rfl⟩ := platformSet
  rw [Session.run_pure] at printed
  cases printed
  exact ⟨p, start, report, platformSet, startSet, created, rfl⟩

/-- Whatever the servers answer, a table that is shown has a line for every instance, painted for its level, and surfaces
every spike of the past that counts. -/
theorem showApplication_surfaces {s : Settings} {now : Instant} {coloured : Bool} {name text : String} {w w' : Wire}
    (shown : (showApplication s now .table coloured name).run w = (.ok text, w')) :
    ∃ (p : Platform) (start : Instant) (report : ApplicationReport) (present : List Sample) (series : List Series),
      Platform.ofSettings s = .ok p ∧ s.historyStart now = .ok start ∧
      (ApplicationReport.create p.ask ⟨s.readLimit, s.readMaxPages⟩ (Usage.historical p.ask ⟨start, now⟩)
        (Usage.current p.ask (Usage.cumulative p.ask)) name).run w = (.ok report, w') ∧
      text = report.text .table coloured ∧
      (report.instances ≠ [] →
        PastAnswered p.ask ⟨s.readLimit, s.readMaxPages⟩ ⟨start, now⟩ name w present series ∧
        ∃ columns rows, report.ShownBy coloured columns rows text) ∧
      (report.instances = [] → text = joinLines [noteLine coloured, report.headerLine coloured, "",
        infoLine coloured ("There are no running instances of app " ++ report.application ++ ".")]) ∧
      report.Surfaces (Usage.Accepted present series) := by
  obtain ⟨p, start, report, platformSet, startSet, created, rfl⟩ := report_of_showApplication shown
  obtain ⟨present, series, answered, surfaces⟩ := Platform.surfaces_of_create created
  refine ⟨p, start, report, present, series, platformSet, startSet, created, rfl, fun running => ?_,
    fun idle => text_of_idle idle coloured, surfaces⟩
  exact ⟨answered running, exists_shownBy running coloured⟩

/-- Settings of a user with a target. -/
def targetSettings : Settings :=
  { Settings.default with
    apiUrl := some "https://api.example.org", accessToken := some "token", org := some "org", space := some "space" }

/-! An application with one instance, which was over its entitlement once and is within it now. -/
namespace PastSpike

def half : Binary64 :=
  ⟨0x3fe0000000000000⟩

def oneAndHalf : Binary64 :=
  ⟨0x3ff8000000000000⟩

def orgsBody : String :=
  "\x7b\"resources\":[\x7b\"guid\":\"o\",\"name\":\"org\"\x7d]\x7d"

def spacesBody : String :=
  "\x7b\"resources\":[\x7b\"guid\":\"s\",\"name\":\"space\"\x7d]\x7d"

def appsBody : String :=
  "\x7b\"resources\":[\x7b\"guid\":\"g\",\"name\":\"web\"\x7d]\x7d"

def envelopesBody : String :=
  "\x7b\"envelopes\":\x7b\"batch\":[\x7b\"instance_id\":\"0\",\"tags\":\x7b\"process_instance_id\":\"p\"\x7d\x7d]\x7d\x7d"

def presentBody : String :=
  "\x7b\"status\":\"success\",\"data\":\x7b\"result\":[[\x7b\"instance_id\":\"0\",\"process_instance_id\":\"p\"\x7d,[40,\"0.5\"]]]\x7d\x7d"

/-- The first point is no number, and the second one is over the entitlement. -/
def pastBody : String :=
  "\x7b\"status\":\"success\",\"data\":\x7b\"result\":[[\x7b\"instance_id\":\"0\",\"process_instance_id\":\"p\"\x7d,[[10,\"NaN\"],[20,\"1.5\"],[30,\"0.5\"]]]]\x7d\x7d"

def replies : List Reply :=
  [.document orgsBody, .document spacesBody, .document appsBody, .document envelopesBody, .document presentBody,
    .document pastBody, .document presentBody]

def labels : Labels :=
  .ofList [("instance_id", "0"), ("process_instance_id", "p")]

def samples : List Sample :=
  [⟨labels, ⟨"40", half⟩⟩]

def series : List Series :=
  [⟨labels, [⟨"20", oneAndHalf⟩, ⟨"30", half⟩]⟩]

def envelopes : List Envelope :=
  [⟨"", "0", "0", .ofList [("process_instance_id", "p")], .empty⟩]

/-- What the documents tell, in the order of the replies. -/
theorem told :
    decodeText? Catalog.page orgsBody = some ⟨none, [⟨"o", "org"⟩]⟩ ∧
    decodeText? Catalog.page spacesBody = some ⟨none, [⟨"s", "space"⟩]⟩ ∧
    decodeText? Catalog.page appsBody = some ⟨none, [⟨"g", "web"⟩]⟩ ∧
    decodeText? MetricsStore.page envelopesBody = some envelopes ∧
    MetricsStore.samplesIn? presentBody = some samples ∧ MetricsStore.seriesIn? pastBody = some series := by
  rw [orgsBody, decodeText?_ofList, spacesBody, decodeText?_ofList, appsBody, decodeText?_ofList, envelopesBody,
    decodeText?_ofList, MetricsStore.samplesIn?, presentBody, decodeText?_ofList, MetricsStore.seriesIn?, pastBody,
    decodeText?_ofList]
  decide +kernel

theorem envelopes_decoded : decodeText? MetricsStore.page envelopesBody = some envelopes :=
  told.2.2.2.1

theorem present_told : MetricsStore.samplesIn? presentBody = some samples :=
  told.2.2.2.2.1

theorem past_told : MetricsStore.seriesIn? pastBody = some series :=
  told.2.2.2.2.2

def reports : List InstanceReport :=
  [⟨0, ⟨half, some ⟨second 20, second 20⟩⟩, ⟨half⟩⟩]

def application : Application :=
  (Application.new "web" "g").withProcesses (Processes.record .empty envelopes).entries

theorem timeline :
    (Usage.ofSeries (Usage.activeProcesses samples) series).entries =
      [(0, [⟨0, second 20, oneAndHalf⟩, ⟨0, second 30, half⟩])] := by
  have active : Usage.activeProcesses samples = ["p"] := by decide +kernel
  have read : series.filterMap (Series.usageOf? ["p"]) =
      [(0, [⟨0, second 20, oneAndHalf⟩, ⟨0, second 30, half⟩])] := by
    decide +kernel
  have sorted : [(⟨0, second 20, oneAndHalf⟩ : UsageSample), ⟨0, second 30, half⟩].mergeSort
      (fun a b => a.time ≤ b.time) = [⟨0, second 20, oneAndHalf⟩, ⟨0, second 30, half⟩] :=
    List.mergeSort_of_pairwise (by decide +kernel)
  rw [active, Usage.ofSeries, read]
  exact congrArg (fun samples => [((0 : InstanceId), samples)]) sorted

theorem reconciled :
    (reconcile (Usage.ofSeries (Usage.activeProcesses samples) series)
        (Usage.ofSamples (Sample.usageOf? application.instances) samples)).values = reports := by
  rw [reconcile, timeline]
  decide +kernel

theorem collect_answers {p : Platform} (reachable : p.metrics.Reachable) (window : Window) :
    (collect (Usage.historical p.ask window) (Usage.current p.ask (Usage.cumulative p.ask)) application).Answers
      [.document presentBody, .document pastBody, .document presentBody] reports [] := by
  have covered : application.instances.size ≤
      (Usage.ofSamples (Sample.usageOf? application.instances) samples).size := by
    decide +kernel
  have pastFound : (Usage.historical p.ask window application.guid application.instances).Answers
      [.document presentBody, .document pastBody, .document presentBody]
      (Usage.ofSeries (Usage.activeProcesses samples) series) [.document presentBody] :=
    (MetricsStore.instant_answers reachable present_told _ _).bind <|
      (MetricsStore.range_answers reachable past_told _ _ _ _ _).bind <| Session.answers_pure _ _
  have presentFound : (Usage.current p.ask (Usage.cumulative p.ask) application.guid application.instances).Answers
      [.document presentBody] (Usage.ofSamples (Sample.usageOf? application.instances) samples) [] := by
    refine (MetricsStore.instant_answers reachable present_told _ _).bind ?_
    rw [if_pos covered]
    exact Session.answers_pure _ _
  rw [← reconciled]
  exact pastFound.bind (presentFound.bind (Session.answers_pure _ _))

theorem resolve_answers {p : Platform} (reachable : p.metrics.Reachable) (rest : List Reply) :
    (Processes.resolve p.ask .default "g").Answers (.document envelopesBody :: rest) (Processes.record .empty envelopes)
      rest := by
  have onlyPage : envelopes.length < Paging.default.pageSize := by decide
  refine (Api.get_answers reachable envelopes_decoded _ _ rest).bind ?_
  rw [if_pos onlyPage]
  exact Session.answers_pure _ rest

theorem create_answers {p : Platform} (metrics : p.metrics.Reachable) (catalog : p.catalog.api.Reachable)
    (window : Window) :
    (ApplicationReport.create p.ask .default (Usage.historical p.ask window)
        (Usage.current p.ask (Usage.cumulative p.ask)) "web").Answers replies
      ⟨p.catalog.org, p.catalog.space, p.catalog.username, "web", reports⟩ [] := by
  obtain ⟨orgTold, spaceTold, appTold, _⟩ := told
  refine (Session.answers_pure p.catalog.org _).bind <| (Session.answers_pure p.catalog.space _).bind <|
    (Session.answers_pure p.catalog.username _).bind <|
    (Catalog.application_answers catalog orgTold spaceTold appTold _ _).bind <| (resolve_answers metrics _).bind ?_
  exact (collect_answers metrics window).bind (Session.answers_pure _ _)

/-- The interfaces that the settings name, with what their user has set. -/
theorem exists_platform_named :
    ∃ p, Platform.ofSettings targetSettings = .ok p ∧ p.metrics.Reachable ∧ p.catalog.api.Reachable ∧
      p.catalog.org = "org" ∧ p.catalog.space = "space" ∧ p.catalog.username = "unknown user" := by
  have reached : (Platform.ofSettings targetSettings).toOption.any (fun p =>
      p.metrics.Reachable ∧ p.catalog.api.Reachable ∧
      p.catalog.org = "org" ∧ p.catalog.space = "space" ∧ p.catalog.username = "unknown user") = true := by
    decide +kernel
  cases set : Platform.ofSettings targetSettings with
  | error e => simp [set, Except.toOption] at reached
  | ok p => exact ⟨p, rfl, by simpa [set, Except.toOption] using reached⟩

theorem exists_platform :
    ∃ p, Platform.ofSettings targetSettings = .ok p ∧ p.metrics.Reachable ∧ p.catalog.api.Reachable := by
  obtain ⟨p, set, metrics, catalog, _⟩ := exists_platform_named
  exact ⟨p, set, metrics, catalog⟩

end PastSpike

theorem showApplication_surfaces_pastSpike : ∃ (text : String) (w' : Wire) (report : ApplicationReport)
    (samples : List Sample) (series : List Series),
    (showApplication targetSettings (second 3000000) .table false "web").run (.new PastSpike.replies) =
      (.ok text, w') ∧
    text = joinLines ["ℹ Note: This feature is experimental.",
      "Showing CPU usage against entitlement for app web in org org / space space as unknown user ...",
      "",
      "╭────┬───────────┬────────────╮",
      "│    │ avg usage │ curr usage │",
      "├────┼───────────┼────────────┤",
      "│ #0 │ 50.00%    │ 50.00%     │",
      "╰────┴───────────┴────────────╯",
      "WARNING: Instance #0 was over entitlement at 1970-01-01 00:00:20"] ∧
    report.instances = PastSpike.reports ∧
    (∃ columns rows, report.ShownBy false columns rows text) ∧
    report.Surfaces (Usage.Accepted samples series) := by
  obtain ⟨p, platformSet, metrics, catalog, org, space, username⟩ := PastSpike.exists_platform_named
  have spaceSet : targetSettings.targetSpace = .ok "space" := rfl
  have startSet : targetSettings.historyStart (second 3000000) = .ok (second 321600) := rfl
  obtain ⟨w', created, _⟩ :=
    PastSpike.create_answers metrics catalog ⟨second 321600, second 3000000⟩ (.new PastSpike.replies) rfl
  rw [org, space, username] at created
  have shown := showApplication_run spaceSet startSet platformSet created .table false
  obtain ⟨p', start', report, samples, series, platformSet', startSet', created', _, running, _,
      surfaces⟩ := showApplication_surfaces shown
  cases platformSet.symm.trans platformSet'
  cases startSet.symm.trans startSet'
  cases created.symm.trans created'
  obtain ⟨_, shownBy⟩ := running (by simp [PastSpike.reports])
  refine ⟨_, w', _, samples, series, shown, ?_, rfl, shownBy, surfaces⟩
  rw [text_of_running (by simp [PastSpike.reports])]
  apply congrArg joinLines
  decide +kernel

end CpuUsage
