import CpuUsage.Proofs.SortedMap
import CpuUsage.Report.Fleet
import CpuUsage.Report.Text

/-! The fleet report as one sorted list. Grouping loses nothing and makes nothing up, groups and their members stand in
order, so the rows of a report are the applications over their entitlement, sorted; in which order they were listed does
not show. -/
namespace CpuUsage

namespace SpaceReport

/-- The applications under the name of their space, as they come. -/
def gather (pairs : List (String × String)) : SortedMap String (List String) :=
  pairs.foldl (fun m p => m.alter p.1 fun old => old.getD [] ++ [p.2]) .empty

def sortNames (names : List String) : List String :=
  names.mergeSort fun a b => a ≤ b

def rows (s : SpaceReport) : List (String × String) :=
  s.applications.map fun a => (s.space, a)

theorem sortNames_perm (names : List String) : (sortNames names).Perm names :=
  List.mergeSort_perm names _

theorem sortNames_sorted (names : List String) : (sortNames names).Pairwise (· ≤ ·) := by
  refine (List.pairwise_mergeSort ?_ ?_ names).imp of_decide_eq_true
  · intro a b c
    simp only [decide_eq_true_eq]
    exact String.le_trans
  · intro a b
    simp only [Bool.or_eq_true, decide_eq_true_eq]
    exact String.le_total a b

theorem sortNames_eq_of_perm {names names' : List String} (same : names.Perm names') :
    sortNames names = sortNames names' := by
  refine List.Perm.eq_of_pairwise ?_ (sortNames_sorted names) (sortNames_sorted names')
    ((sortNames_perm names).trans (same.trans (sortNames_perm names').symm))
  intro a b _ _
  exact String.le_antisymm

theorem group_eq (pairs : List (String × String)) :
    group pairs = ((gather pairs).mapValues sortNames).entries.map fun e => ⟨e.1, e.2⟩ := by
  rw [SortedMap.mapValues, List.map_map]
  rfl

theorem get?_gather (pairs : List (String × String)) (space : String) :
    (gather pairs).get? space =
      if ∃ p ∈ pairs, p.1 = space then some ((pairs.filter fun p => p.1 = space).map (·.2)) else none := by
  rw [List.map_eq_flatMap]
  exact SortedMap.get?_gathered Prod.fst (fun p => [p.2]) pairs space

theorem group_eq_of_perm {pairs pairs' : List (String × String)} (same : pairs.Perm pairs') :
    group pairs = group pairs' := by
  have maps : (gather pairs).mapValues sortNames = (gather pairs').mapValues sortNames := by
    apply SortedMap.ext_get?
    intro space
    rw [SortedMap.get?_mapValues, SortedMap.get?_mapValues, get?_gather, get?_gather]
    simp only [same.mem_iff]
    split
    · exact congrArg some (sortNames_eq_of_perm ((same.filter _).map _))
    · rfl
  rw [group_eq, group_eq, maps]

def pairsOf (groups : List (String × List String)) : List (String × String) :=
  groups.flatMap fun e => e.2.map fun a => (e.1, a)

theorem pairsOf_alterEntries (p : String × String) (groups : List (String × List String)) :
    (pairsOf (SortedMap.alterEntries p.1 (fun old => old.getD [] ++ [p.2]) groups)).Perm (p :: pairsOf groups) := by
  induction groups with
  | nil => exact .refl _
  | cons head rest ih =>
    simp only [SortedMap.alterEntries]
    split
    · exact .refl _
    · next notBelow =>
      split
      · exact (ih.append_left _).trans List.perm_middle
      · next notAbove =>
        have same : head.1 = p.1 := KeyOrder.connected notAbove notBelow
        have added : pairsOf ((head.1, (some head.2).getD [] ++ [p.2]) :: rest) =
            head.2.map (fun a => (head.1, a)) ++ p :: pairsOf rest := by
          simp [pairsOf, same]
        rw [added]
        exact List.perm_middle

theorem pairsOf_foldl (pairs : List (String × String)) (m : SortedMap String (List String)) :
    (pairsOf (pairs.foldl (fun m p => m.alter p.1 fun old => old.getD [] ++ [p.2]) m).entries).Perm
      (pairs ++ pairsOf m.entries) := by
  induction pairs generalizing m with
  | nil => exact .refl _
  | cons p rest ih =>
    have added := pairsOf_alterEntries p m.entries
    exact (ih _).trans ((added.append_left rest).trans List.perm_middle)

/-- Nothing is lost in groups, and nothing appears there that was not grouped. -/
theorem rows_group (pairs : List (String × String)) : ((group pairs).flatMap rows).Perm pairs := by
  have gathered : (pairsOf (gather pairs).entries).Perm (pairs ++ []) := pairsOf_foldl pairs .empty
  rw [List.append_nil] at gathered
  have sorted : ((group pairs).flatMap rows).Perm (pairsOf (gather pairs).entries) := by
    rw [group, List.flatMap_map]
    apply List.Perm.flatMap_left
    intro e _
    exact (sortNames_perm e.2).map _
  exact sorted.trans gathered

theorem group_ascending (pairs : List (String × String)) : (group pairs).Pairwise fun a b => a.space < b.space := by
  rw [group, List.pairwise_map]
  exact (gather pairs).ascending

theorem group_nonempty {pairs : List (String × String)} {s : SpaceReport} (member : s ∈ group pairs) :
    s.applications ≠ [] := by
  obtain ⟨⟨space, names⟩, held, rfl⟩ := List.mem_map.mp member
  intro empty
  have none : names = [] := List.nil_perm.mp (empty ▸ sortNames_perm names)
  rw [SortedMap.mem_entries_iff] at held
  have found := (get?_gather pairs space).symm.trans held
  split at found
  · next present =>
    obtain ⟨p, isPair, same⟩ := present
    have member : p.2 ∈ names := by
      rw [← Option.some.inj found]
      simp only [List.mem_map, List.mem_filter, decide_eq_true_eq]
      exact ⟨p, ⟨isPair, same⟩, rfl⟩
    rw [none] at member
    contradiction
  · contradiction

theorem rows_group_sorted (pairs : List (String × String)) :
    ((group pairs).flatMap rows).Pairwise (Prod.Lex (· < ·) (· ≤ ·)) := by
  rw [List.pairwise_flatMap]
  constructor
  · intro s member
    obtain ⟨e, _, rfl⟩ := List.mem_map.mp member
    rw [rows, List.pairwise_map]
    exact (sortNames_sorted e.2).imp fun before => .right _ before
  · apply (group_ascending pairs).imp
    intro s s' before x inRows y inRows'
    obtain ⟨a, _, rfl⟩ := List.mem_map.mp inRows
    obtain ⟨a', _, rfl⟩ := List.mem_map.mp inRows'
    exact .left _ _ before

theorem group_eq_nil_iff (pairs : List (String × String)) : group pairs = [] ↔ pairs = [] := by
  constructor
  · intro none
    have rows := rows_group pairs
    rw [none] at rows
    exact List.nil_perm.mp rows
  · rintro rfl
    rfl

end SpaceReport

def Usage.IsOver (usage : Usage) : Prop :=
  ∃ slot samples, usage.get? slot = some samples ∧ ∃ u ∈ samples, .one < u.value

theorem Usage.exceeds_iff (usage : Usage) : usage.exceeds = true ↔ usage.IsOver := by
  simp only [exceeds, List.any_eq_true, SortedMap.mem_values_iff, IsOver, UsageSample.exceeds, decide_eq_true_eq]
  constructor
  · rintro ⟨samples, ⟨slot, held⟩, u, member, exceeds⟩
    exact ⟨slot, samples, held, u, member, exceeds⟩
  · rintro ⟨slot, samples, held, u, member, exceeds⟩
    exact ⟨samples, ⟨slot, held⟩, u, member, exceeds⟩

instance (usage : Usage) : Decidable usage.IsOver :=
  decidable_of_iff _ usage.exceeds_iff

/-- The names of the applications that are over their entitlement, with those of their spaces, as they are listed. -/
def overIn (usage : String → Usage) (spaces : List Space) : List (String × String) :=
  spaces.flatMap fun s => (s.applications.filter fun a => (usage a.guid).IsOver).map fun a => (s.name, a.name)

theorem overIn_eq (usage : String → Usage) (spaces : List Space) :
    overIn usage spaces =
      ((placements spaces).filter fun p => (usage p.2.guid).IsOver).map fun p => (p.1, p.2.name) := by
  simp [overIn, placements, List.filter_flatMap, List.map_flatMap, List.filter_map, List.map_map, Function.comp_def]

/-- Spaces in another order, with their applications in another order. -/
def Rearranged (spaces spaces' : List Space) : Prop :=
  ∃ between, spaces.Perm between ∧
    List.Forall₂ (fun s s' => s.name = s'.name ∧ s.applications.Perm s'.applications) between spaces'

theorem placements_perm {spaces spaces' : List Space} (h : Rearranged spaces spaces') :
    (placements spaces).Perm (placements spaces') := by
  obtain ⟨between, moved, within⟩ := h
  refine (moved.flatMap_right _).trans ?_
  clear moved
  induction within with
  | nil => exact .refl _
  | @cons s s' _ _ same _ ih =>
    obtain ⟨name, applications⟩ := same
    rw [List.flatMap_cons, placements, List.flatMap_cons, name]
    exact (applications.map _).append ih

/-- Whatever the state, the collaborators tell of this organization. -/
structure Collaborators.Lists (ask : Collaborators σ) (org username : String) (spaces : List Space) : Prop where
  org : ∀ s, ∃ s', (ask .org).run s = (.ok org, s')
  username : ∀ s, ∃ s', (ask .username).run s = (.ok username, s')
  spaces : ∀ s, ∃ s', (ask .spaces).run s = (.ok spaces, s')

/-- Whatever the state, the usage of every application that is listed is found, and depends on its guid only. -/
def Fetcher.Finds (fetch : Fetcher σ) (usage : String → Usage) (spaces : List Space) : Prop :=
  ∀ p ∈ placements spaces, ∀ s, ∃ s', (fetch p.2.guid p.2.instances).run s = (.ok (usage p.2.guid), s')

theorem exceeding_run {fetch : Fetcher σ} {usage : String → Usage} {pairs : List (String × Application)}
    (found : ∀ p ∈ pairs, ∀ s, ∃ s', (fetch p.2.guid p.2.instances).run s = (.ok (usage p.2.guid), s')) (s : σ) :
    ∃ s', (exceeding fetch pairs).run s =
      (.ok ((pairs.filter fun p => (usage p.2.guid).IsOver).map fun p => (p.1, p.2.name)), s') := by
  induction pairs generalizing s with
  | nil => exact ⟨s, rfl⟩
  | cons p rest ih =>
    obtain ⟨pFound, restFound⟩ := List.forall_mem_cons.mp found
    obtain ⟨s₁, fetched⟩ := pFound s
    obtain ⟨s₂, others⟩ := ih restFound s₁
    refine ⟨s₂, ?_⟩
    rw [exceeding, Session.run_bind_ok fetched, Session.run_bind_ok others, Session.run_pure]
    by_cases isOver : (usage p.2.guid).IsOver
    · simp [isOver, (Usage.exceeds_iff _).mpr isOver]
    · simp [isOver, mt (Usage.exceeds_iff _).mp isOver]

namespace FleetReport

def rows (r : FleetReport) : List (String × String) :=
  r.spaces.flatMap SpaceReport.rows

theorem table_rows (r : FleetReport) : r.table.rows = r.rows.map fun p => [p.1, p.2] := by
  simp [table, rows, SpaceReport.rows, List.map_flatMap, Function.comp_def]

theorem create_run {ask : Collaborators σ} {fetch : Fetcher σ} {org username : String} {spaces : List Space}
    {usage : String → Usage} (lists : ask.Lists org username spaces) (finds : fetch.Finds usage spaces) (s : σ) :
    ∃ s', (create ask fetch).run s = (.ok ⟨org, username, SpaceReport.group (overIn usage spaces)⟩, s') := by
  obtain ⟨s₁, orgTold⟩ := lists.org s
  obtain ⟨s₂, usernameTold⟩ := lists.username s₁
  obtain ⟨s₃, spacesTold⟩ := lists.spaces s₂
  obtain ⟨s₄, exceeded⟩ := exceeding_run finds s₃
  rw [← overIn_eq] at exceeded
  exact ⟨s₄, (Session.run_bind_ok orgTold).trans <| (Session.run_bind_ok usernameTold).trans <|
    (Session.run_bind_ok spacesTold).trans <| (Session.run_bind_ok exceeded).trans <| Session.run_pure ..⟩

/-- The report of an organization is the sorted list of its applications that are over their entitlement, in groups by
the name of the space. In which order spaces and applications are listed makes no difference. -/
theorem create_sorted {ask : Collaborators σ} {fetch : Fetcher σ} {org username : String} {spaces : List Space}
    {usage : String → Usage} (lists : ask.Lists org username spaces) (finds : fetch.Finds usage spaces) :
    ∃ report : FleetReport, (∀ s, ∃ s', (create ask fetch).run s = (.ok report, s')) ∧
      report.org = org ∧ report.username = username ∧
      report.table.rows = report.rows.map (fun p => [p.1, p.2]) ∧
      report.rows.Perm (overIn usage spaces) ∧
      report.rows.Pairwise (Prod.Lex (· < ·) (· ≤ ·)) ∧
      (report.spaces.Pairwise fun a b => a.space < b.space) ∧
      (∀ s ∈ report.spaces, s.applications ≠ []) ∧
      (report.isEmpty ↔ ∀ space ∈ spaces, ∀ a ∈ space.applications, ¬ (usage a.guid).IsOver) ∧
      ∀ (ask' : Collaborators σ) (spaces' : List Space), Rearranged spaces spaces' → ask'.Lists org username spaces' →
        ∀ s, ∃ s', (create ask' fetch).run s = (.ok report, s') := by
  refine ⟨⟨org, username, SpaceReport.group (overIn usage spaces)⟩, create_run lists finds, rfl, rfl, table_rows _,
    SpaceReport.rows_group _, SpaceReport.rows_group_sorted _, SpaceReport.group_ascending _,
    fun s => SpaceReport.group_nonempty, ?_, ?_⟩
  · rw [isEmpty, List.isEmpty_iff, SpaceReport.group_eq_nil_iff]
    simp [overIn, List.flatMap_eq_nil_iff]
  · intro ask' spaces' rearranged lists' s
    have samePlacements := placements_perm rearranged
    have finds' : fetch.Finds usage spaces' := fun p placed => finds p (samePlacements.mem_iff.mpr placed)
    have same : (overIn usage spaces).Perm (overIn usage spaces') := by
      rw [overIn_eq, overIn_eq]
      exact (samePlacements.filter _).map _
    rw [SpaceReport.group_eq_of_perm same]
    exact create_run lists' finds' s

/-- Two spaces of one name, listed apart, with an application each that is over its entitlement. -/
def listedApart : List Space :=
  [⟨"dev", [.new "web" "hot", .new "idle" "cold"]⟩, ⟨"ops", []⟩, ⟨"dev", [.new "api" "hot"]⟩]

def organization : Collaborators Unit
  | .org => Session.pure "org"
  | .username => Session.pure "me"
  | .spaces => Session.pure listedApart
  | _ => Session.fail .unanswered

def hotUsage (guid : String) : Usage :=
  if guid = "hot" then .ofList [(0, [⟨0, .epoch, ⟨0x4000000000000000⟩⟩])] else .empty

theorem create_sorted_listedApart : ∃ report : FleetReport,
    (∀ s, ∃ s', (create organization fun guid _ => pure (hotUsage guid)).run s = (.ok report, s')) ∧
    report.rows.Perm [("dev", "web"), ("dev", "api")] ∧ report.rows.Pairwise (Prod.Lex (· < ·) (· ≤ ·)) := by
  have lists : organization.Lists "org" "me" listedApart :=
    ⟨fun s => ⟨s, rfl⟩, fun s => ⟨s, rfl⟩, fun s => ⟨s, rfl⟩⟩
  have finds : Fetcher.Finds (fun guid _ => (pure (hotUsage guid) : Session Unit Usage)) hotUsage listedApart :=
    fun _ _ s => ⟨s, rfl⟩
  obtain ⟨report, ran, _, _, _, perm, sorted, _⟩ := create_sorted lists finds
  have listed : overIn hotUsage listedApart = [("dev", "web"), ("dev", "api")] := by decide +kernel
  exact ⟨report, ran, listed ▸ perm, sorted⟩

end FleetReport
end CpuUsage
