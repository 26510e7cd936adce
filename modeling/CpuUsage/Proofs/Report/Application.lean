import CpuUsage.Proofs.Report.Conversation

/-! What an application report comes to, whatever the two sides of the usage are. `Reconciles` describes its instance
reports by the samples that either side holds of a slot; the processes that are resolved, and then these reports, decide
how the application report ends. -/
namespace CpuUsage

/-- The samples of a slot; a slot that is not there has none. -/
def Usage.samplesIn (usage : Usage) (slot : InstanceId) : List UsageSample :=
  (usage.get? slot).getD []

namespace HistoricalUsage

theorem ofSamples?_samplesIn (past : Usage) (slot : InstanceId) :
    ofSamples? (past.samplesIn slot) = (past.get? slot).bind ofSamples? := by
  rw [Usage.samplesIn]
  cases past.get? slot <;> rfl

theorem ofSamples?_eq_none_iff {samples : List UsageSample} : ofSamples? samples = none ↔ samples = [] := by
  rw [ofSamples?, Option.map_eq_none_iff, List.getLast?_eq_none_iff]

end HistoricalUsage

namespace CurrentUsage

theorem ofSamples?_samplesIn (present : Usage) (slot : InstanceId) :
    ofSamples? (present.samplesIn slot) = (present.get? slot).bind ofSamples? := by
  rw [Usage.samplesIn]
  cases present.get? slot <;> rfl

theorem ofSamples?_eq_none_iff {samples : List UsageSample} :
    ofSamples? samples = none ↔ ∀ u, samples ≠ [u] := by
  match samples with
  | [] | _ :: _ :: _ => simp [ofSamples?]
  | [u] => simp [ofSamples?]

end CurrentUsage

namespace InstanceReports

/-- One report for each slot that has past samples or a single present one, in the order of the slots. The past tells
its last value and its last spike, a single present sample tells its value, and what nobody tells is zero. -/
structure Reconciles (past present : Usage) (reports : List InstanceReport) : Prop where
  ascending : reports.Pairwise fun r r' => r.slot < r'.slot
  reported_iff : ∀ slot, (∃ r ∈ reports, r.slot = slot) ↔
    past.samplesIn slot ≠ [] ∨ ∃ u, present.samplesIn slot = [u]
  historical_of_last : ∀ r ∈ reports, ∀ last, (past.samplesIn r.slot).getLast? = some last →
    r.historical = ⟨last.value, Spike.detect .one (past.samplesIn r.slot)⟩
  historical_of_nil : ∀ r ∈ reports, past.samplesIn r.slot = [] → r.historical = ⟨.zero, none⟩
  current_of_single : ∀ r ∈ reports, ∀ u, present.samplesIn r.slot = [u] → r.current = ⟨u.value⟩
  current_of_other : ∀ r ∈ reports, (∀ u, present.samplesIn r.slot ≠ [u]) → r.current = ⟨.zero⟩

theorem get?_reconcile_eq_samplesIn (past present : Usage) (slot : InstanceId) :
    (reconcile past present).get? slot =
      InstanceReport.ofSides? slot (HistoricalUsage.ofSamples? (past.samplesIn slot))
        (CurrentUsage.ofSamples? (present.samplesIn slot)) := by
  rw [get?_reconcile, HistoricalUsage.ofSamples?_samplesIn, CurrentUsage.ofSamples?_samplesIn]

theorem eq_of_get?_reconcile {past present : Usage} {slot : InstanceId} {r : InstanceReport}
    (held : (reconcile past present).get? slot = some r) :
    r = ⟨slot, (HistoricalUsage.ofSamples? (past.samplesIn slot)).getD ⟨.zero, none⟩,
      (CurrentUsage.ofSamples? (present.samplesIn slot)).getD ⟨.zero⟩⟩ := by
  rw [get?_reconcile_eq_samplesIn] at held
  exact InstanceReport.eq_of_ofSides? held

theorem eq_of_mem_reconcile {past present : Usage} {r : InstanceReport}
    (reported : r ∈ (reconcile past present).values) :
    r = ⟨r.slot, (HistoricalUsage.ofSamples? (past.samplesIn r.slot)).getD ⟨.zero, none⟩,
      (CurrentUsage.ofSamples? (present.samplesIn r.slot)).getD ⟨.zero⟩⟩ := by
  obtain ⟨slot, held⟩ := (SortedMap.mem_values_iff _ _).mp reported
  have same : r.slot = slot := by rw [eq_of_get?_reconcile held]
  exact same ▸ eq_of_get?_reconcile held

theorem reconcile_ascending (past present : Usage) :
    (reconcile past present).values.Pairwise fun r r' => r.slot < r'.slot := by
  have slot_of_mem : ∀ e ∈ (reconcile past present).entries, e.2.slot = e.1 := by
    rintro ⟨slot, r⟩ member
    rw [eq_of_get?_reconcile ((SortedMap.mem_entries_iff _ _ _).mp member)]
  rw [SortedMap.values, List.pairwise_map]
  apply (reconcile past present).ascending.imp_of_mem
  intro e e' member member' before
  rwa [slot_of_mem e member, slot_of_mem e' member']

theorem exists_report_iff (past present : Usage) (slot : InstanceId) :
    (∃ r ∈ (reconcile past present).values, r.slot = slot) ↔
      past.samplesIn slot ≠ [] ∨ ∃ u, present.samplesIn slot = [u] := by
  have held : (∃ r ∈ (reconcile past present).values, r.slot = slot) ↔
      ∃ r, (reconcile past present).get? slot = some r := by
    constructor
    · rintro ⟨r, member, rfl⟩
      obtain ⟨slot, held⟩ := (SortedMap.mem_values_iff _ _).mp member
      have same : r.slot = slot := by rw [eq_of_get?_reconcile held]
      exact ⟨r, same ▸ held⟩
    · rintro ⟨r, held⟩
      exact ⟨r, (SortedMap.mem_values_iff _ _).mpr ⟨slot, held⟩, by rw [eq_of_get?_reconcile held]⟩
  rw [held, ← Option.ne_none_iff_exists', get?_reconcile_eq_samplesIn, Ne, InstanceReport.ofSides?_eq_none_iff,
    HistoricalUsage.ofSamples?_eq_none_iff, CurrentUsage.ofSamples?_eq_none_iff, not_and_or]
  push Not
  rfl

theorem reconciles_reconcile (past present : Usage) : Reconciles past present (reconcile past present).values := by
  refine ⟨reconcile_ascending past present, exists_report_iff past present, ?_, ?_, ?_, ?_⟩
  · intro r reported last isLast
    rw [eq_of_mem_reconcile reported, HistoricalUsage.ofSamples?, isLast]
    rfl
  · intro r reported none
    rw [eq_of_mem_reconcile reported, none]
    rfl
  · intro r reported u single
    rw [eq_of_mem_reconcile reported, single]
    rfl
  · intro r reported other
    rw [eq_of_mem_reconcile reported, CurrentUsage.ofSamples?_eq_none_iff.mpr other]
    rfl

/-- Both sides of the usage of an application are found, the past first. -/
def Finds (historical current : Fetcher σ) (a : Application) (s : σ) (past present : Usage) (s' : σ) : Prop :=
  ∃ between, (historical a.guid a.instances).run s = (.ok past, between) ∧
    (current a.guid a.instances).run between = (.ok present, s')

theorem collect_run {historical current : Fetcher σ} {a : Application} {s s' : σ} {past present : Usage}
    (found : Finds historical current a s past present s') :
    (collect historical current a).run s = (.ok (reconcile past present).values, s') := by
  obtain ⟨between, pastFound, presentFound⟩ := found
  exact (Session.run_bind_ok pastFound).trans (Session.run_bind_ok presentFound)

theorem finds_of_collect {historical current : Fetcher σ} {a : Application} {s s' : σ} {reports : List InstanceReport}
    (collected : (collect historical current a).run s = (.ok reports, s')) :
    ∃ past present, Finds historical current a s past present s' ∧ reports = (reconcile past present).values := by
  obtain ⟨past, between, pastFound, collected⟩ := Session.run_bind_eq_ok collected
  obtain ⟨present, _, presentFound, collected⟩ := Session.run_bind_eq_ok collected
  rw [Session.run_pure] at collected
  cases collected
  exact ⟨past, present, ⟨between, pastFound, presentFound⟩, rfl⟩

end InstanceReports

namespace ApplicationReport
open InstanceReports

/-- The user's context is known, the application is found, and its processes are resolved. -/
def Locates (ask : Collaborators σ) (paging : Paging) (name : String) (s : σ) (org space username : String)
    (a : Application) (processes : Processes) (s' : σ) : Prop :=
  ∃ s₁ s₂ s₃ s₄, (ask .org).run s = (.ok org, s₁) ∧ (ask .space).run s₁ = (.ok space, s₂) ∧
    (ask .username).run s₂ = (.ok username, s₃) ∧ (ask (.application name)).run s₃ = (.ok a, s₄) ∧
    (Processes.resolve ask paging a.guid).run s₄ = (.ok processes, s')

theorem create_run_of_locates {ask : Collaborators σ} {paging : Paging} {name : String} {s s' : σ}
    {org space username : String} {a : Application} {processes : Processes}
    (located : Locates ask paging name s org space username a processes s') (historical current : Fetcher σ) :
    (create ask paging historical current name).run s =
      (reportOn historical current org space username (a.withProcesses processes.entries)).run s' := by
  obtain ⟨s₁, s₂, s₃, s₄, orgTold, spaceTold, usernameTold, found, resolved⟩ := located
  exact (Session.run_bind_ok orgTold).trans <| (Session.run_bind_ok spaceTold).trans <|
    (Session.run_bind_ok usernameTold).trans <| (Session.run_bind_ok found).trans <| Session.run_bind_ok resolved

theorem exists_locates_of_create {ask : Collaborators σ} {paging : Paging} {historical current : Fetcher σ}
    {name : String} {s s' : σ} {report : ApplicationReport}
    (created : (create ask paging historical current name).run s = (.ok report, s')) :
    ∃ org space username a processes located, Locates ask paging name s org space username a processes located ∧
      (reportOn historical current org space username (a.withProcesses processes.entries)).run located =
        (.ok report, s') := by
  obtain ⟨org, s₁, orgTold, created⟩ := Session.run_bind_eq_ok created
  obtain ⟨space, s₂, spaceTold, created⟩ := Session.run_bind_eq_ok created
  obtain ⟨username, s₃, usernameTold, created⟩ := Session.run_bind_eq_ok created
  obtain ⟨a, s₄, found, created⟩ := Session.run_bind_eq_ok created
  obtain ⟨processes, located, resolved, created⟩ := Session.run_bind_eq_ok created
  exact ⟨org, space, username, a, processes, located,
    ⟨s₁, s₂, s₃, s₄, orgTold, spaceTold, usernameTold, found, resolved⟩, created⟩

theorem isEmpty_withProcesses (a : Application) (processes : Processes) :
    (a.withProcesses processes.entries).instances.isEmpty = processes.isEmpty := by
  rw [Bool.eq_iff_iff, SortedMap.isEmpty_iff, SortedMap.isEmpty_iff]
  simp only [Application.get?_withProcesses, Option.map_eq_none_iff]

/-- Neither side tells anything: nothing of the past, and of no slot a single present sample. -/
def Unknown (past present : Usage) : Prop :=
  ∀ slot, past.samplesIn slot = [] ∧ ∀ u, present.samplesIn slot ≠ [u]

theorem isEmpty_reconcile_iff (past present : Usage) :
    (reconcile past present).values.isEmpty = true ↔ Unknown past present := by
  rw [List.isEmpty_iff, SortedMap.values_eq_nil_iff]
  simp only [get?_reconcile_eq_samplesIn, InstanceReport.ofSides?_eq_none_iff,
    HistoricalUsage.ofSamples?_eq_none_iff, CurrentUsage.ofSamples?_eq_none_iff, Unknown]

theorem reportOn_run_idle {historical current : Fetcher σ} {org space username : String} {a : Application}
    (idle : a.instances.isEmpty = true) (s : σ) :
    (reportOn historical current org space username a).run s = (.ok ⟨org, space, username, a.name, []⟩, s) := by
  rw [reportOn, if_pos idle]
  rfl

theorem reportOn_run {historical current : Fetcher σ} {org space username : String} {a : Application}
    (running : a.instances.isEmpty = false) {s s' : σ} {reports : List InstanceReport}
    (collected : (collect historical current a).run s = (.ok reports, s')) :
    (reportOn historical current org space username a).run s =
      (if reports.isEmpty then .error (.platform (.unsupportedDeployment a.name))
        else .ok ⟨org, space, username, a.name, reports⟩, s') := by
  rw [reportOn, if_neg (by simp [running]), Session.run_bind_ok collected]
  split <;> rfl

theorem collect_of_reportOn {historical current : Fetcher σ} {org space username : String} {a : Application}
    {s s' : σ} {report : ApplicationReport}
    (reported : (reportOn historical current org space username a).run s = (.ok report, s'))
    (nonempty : report.instances ≠ []) : (collect historical current a).run s = (.ok report.instances, s') := by
  rw [reportOn] at reported
  split at reported
  · rw [Session.run_pure] at reported
    cases reported
    contradiction
  · obtain ⟨reports, between, collected, reported⟩ := Session.run_bind_eq_ok reported
    split at reported
    · rw [Session.run_fail] at reported
      cases reported
    · rw [Session.run_pure] at reported
      cases reported
      exact collected

/-- Instance reports come to what both sides of the usage tell. An application without processes has an empty report,
whatever its usage, of which nothing is asked then. Any other has the instance reports, and is unsupported if neither
side tells anything. -/
theorem create_decided (ask : Collaborators σ) (paging : Paging) (historical current : Fetcher σ) (name : String) :
    (∀ (a : Application) (s s' : σ) (past present : Usage), Finds historical current a s past present s' →
      ∃ reports, (collect historical current a).run s = (.ok reports, s') ∧ Reconciles past present reports) ∧
    ∀ (s s' : σ) (org space username : String) (a : Application) (processes : Processes),
      Locates ask paging name s org space username a processes s' →
        (processes.isEmpty = true →
          (create ask paging historical current name).run s = (.ok ⟨org, space, username, a.name, []⟩, s')) ∧
        (processes.isEmpty = false → ∀ (past present : Usage) (s'' : σ),
          Finds historical current (a.withProcesses processes.entries) s' past present s'' →
            (Unknown past present →
              (create ask paging historical current name).run s =
                (.error (.platform (.unsupportedDeployment a.name)), s'')) ∧
            (¬ Unknown past present → ∃ reports, Reconciles past present reports ∧
              (collect historical current (a.withProcesses processes.entries)).run s' = (.ok reports, s'') ∧
              (create ask paging historical current name).run s =
                (.ok ⟨org, space, username, a.name, reports⟩, s''))) := by
  refine ⟨fun a s s' past present found => ⟨_, collect_run found, reconciles_reconcile past present⟩, ?_⟩
  intro s s' org space username a processes located
  have ran := create_run_of_locates located historical current
  constructor
  · intro idle
    rw [← isEmpty_withProcesses a] at idle
    exact ran.trans (reportOn_run_idle idle s')
  · intro running past present s'' found
    rw [← isEmpty_withProcesses a] at running
    have collected := collect_run found
    rw [reportOn_run running collected] at ran
    constructor
    · intro unknown
      rw [ran, if_pos ((isEmpty_reconcile_iff past present).mpr unknown)]
      rfl
    · intro known
      refine ⟨_, reconciles_reconcile past present, collected, ?_⟩
      rw [ran, if_neg (mt (isEmpty_reconcile_iff past present).mp known)]
      rfl

/-- The past of three slots, one of them without samples and one with a spike. -/
def pastUsage : Usage :=
  .ofList [(4, [⟨4, second 10, double⟩, ⟨4, second 20, .one⟩]), (2, []), (1, [⟨1, second 10, .one⟩])]

/-- The present of three slots, one of them with two samples. -/
def presentUsage : Usage :=
  .ofList [(1, [⟨1, second 30, .one⟩, ⟨1, second 30, double⟩]), (2, [⟨2, second 30, double⟩]), (3, [])]

theorem create_decided_overlapping : ∃ reports,
    (create silent .default (fun _ _ => pure pastUsage) (fun _ _ => pure presentUsage) "web").run () =
      (.ok ⟨"org", "space", "me", "web", reports⟩, ()) ∧
    Reconciles pastUsage presentUsage reports ∧
    reports = [⟨1, ⟨.one, none⟩, ⟨.zero⟩⟩, ⟨2, ⟨.zero, none⟩, ⟨double⟩⟩, ⟨4, ⟨.one, some ⟨second 10, second 10⟩⟩, ⟨.zero⟩⟩] := by
  have decided := create_decided silent .default (fun _ _ => pure pastUsage) (fun _ _ => pure presentUsage) "web"
  have located : Locates silent .default "web" () "org" "space" "me" (.new "web" "guid") (.ofList [(0, "p")]) () :=
    ⟨(), (), (), (), rfl, rfl, rfl, rfl, rfl⟩
  have known : ¬ Unknown pastUsage presentUsage := by
    intro unknown
    exact absurd (unknown 1).1 (by decide +kernel)
  have ⟨_, running⟩ := decided.2 () () "org" "space" "me" (.new "web" "guid") _ located
  obtain ⟨reports, reconciles, collected, ran⟩ := (running rfl pastUsage presentUsage () ⟨(), rfl, rfl⟩).2 known
  refine ⟨reports, ran, reconciles, ?_⟩
  have values : (reconcile pastUsage presentUsage).values = reports := by
    cases collected
    rfl
  rw [← values]
  decide +kernel

end ApplicationReport
end CpuUsage
