import CpuUsage.Proofs.Report.Fleet
import CpuUsage.Proofs.Report.Instance
import CpuUsage.Proofs.Usage.Order

/-! The order of what a store lists, as far as reports show it. An application is over its entitlement by the first
sample of each slot, so its answer settles this for every order exactly where some slot has samples over the entitlement
only, or none has any; fleet reports made of such answers are free of the order. Instance reports are free of it where
no slot is told of twice and no time twice in a slot. -/
namespace CpuUsage
open Session

namespace Usage

theorem isOver_ofSamples_iff (accept : Sample → Option UsageSample) (samples : List Sample) :
    (ofSamples accept samples).IsOver ↔
      ∃ slot u, ((samples.filterMap accept).find? fun u => u.slot = slot) = some u ∧ .one < u.value := by
  simp only [IsOver, get?_ofSamples, Option.map_eq_some_iff]
  constructor
  · rintro ⟨slot, _, ⟨u, first, rfl⟩, _, member, exceeds⟩
    rw [List.mem_singleton.mp member] at exceeds
    exact ⟨slot, u, first, exceeds⟩
  · rintro ⟨slot, u, first, exceeds⟩
    exact ⟨slot, [u], ⟨u, first, rfl⟩, u, List.mem_singleton_self u, exceeds⟩

/-- Some slot is told of by samples over the entitlement only, or no sample that counts is over it. -/
def Settled (samples : List Sample) : Prop :=
  (∃ slot, (∃ u ∈ samples.filterMap Sample.usage?, u.slot = slot) ∧
    ∀ u ∈ samples.filterMap Sample.usage?, u.slot = slot → .one < u.value) ∨
  ∀ u ∈ samples.filterMap Sample.usage?, ¬ .one < u.value

theorem Settled.of_perm {samples samples' : List Sample} (settled : Settled samples)
    (reordered : samples.Perm samples') : Settled samples' := by
  have same : ∀ u, u ∈ samples.filterMap Sample.usage? ↔ u ∈ samples'.filterMap Sample.usage? :=
    fun _ => (reordered.filterMap Sample.usage?).mem_iff
  simpa only [Settled, same] using settled

theorem Settled.isOver_iff {samples : List Sample} (settled : Settled samples) :
    (ofSamples Sample.usage? samples).IsOver ↔ ∃ u ∈ samples.filterMap Sample.usage?, .one < u.value := by
  rw [isOver_ofSamples_iff]
  constructor
  · rintro ⟨slot, u, first, exceeds⟩
    exact ⟨u, (mem_of_find?_slot first).1, exceeds⟩
  · rintro ⟨u, member, exceeds⟩
    rcases settled with ⟨_, ⟨v, told, rfl⟩, allOver⟩ | noneOver
    · obtain ⟨first, found⟩ := exists_find?_slot told
      obtain ⟨firstTold, same⟩ := mem_of_find?_slot found
      exact ⟨v.slot, first, found, allOver first firstTold same⟩
    · exact absurd exceeds (noneOver u member)

theorem Settled.isOver_congr {samples samples' : List Sample} (settled : Settled samples)
    (reordered : samples.Perm samples') :
    (ofSamples Sample.usage? samples).IsOver ↔ (ofSamples Sample.usage? samples').IsOver := by
  rw [settled.isOver_iff, (settled.of_perm reordered).isOver_iff]
  simp only [(reordered.filterMap Sample.usage?).mem_iff]

/-- Of the samples that are listed in front, one is the first of its slot. -/
theorem find?_slot_in_front {front : List Sample} {u : UsageSample} (member : u ∈ front.filterMap Sample.usage?)
    (back : List Sample) : ∃ first ∈ front.filterMap Sample.usage?,
      (((front ++ back).filterMap Sample.usage?).find? fun v => v.slot = u.slot) = some first := by
  obtain ⟨first, found⟩ := exists_find?_slot member
  refine ⟨first, (mem_of_find?_slot found).1, ?_⟩
  rw [List.filterMap_append, List.find?_append, found, Option.some_or]

/-- A sample that tells of no usage over the entitlement. -/
def isQuiet (s : Sample) : Bool :=
  s.usage?.all fun u => !u.exceeds .one

theorem mem_filter_isQuiet {samples : List Sample} {u : UsageSample} :
    u ∈ (samples.filter isQuiet).filterMap Sample.usage? ↔
      u ∈ samples.filterMap Sample.usage? ∧ ¬ .one < u.value := by
  simp only [List.mem_filterMap, List.mem_filter]
  constructor
  · rintro ⟨s, ⟨member, quiet⟩, told⟩
    refine ⟨⟨s, member, told⟩, ?_⟩
    simpa [isQuiet, told, UsageSample.exceeds] using quiet
  · rintro ⟨⟨s, member, told⟩, notOver⟩
    exact ⟨s, ⟨member, by simpa [isQuiet, told, UsageSample.exceeds] using notOver⟩, told⟩

theorem mem_filter_not_isQuiet {samples : List Sample} {u : UsageSample} :
    u ∈ (samples.filter fun s => !isQuiet s).filterMap Sample.usage? ↔
      u ∈ samples.filterMap Sample.usage? ∧ .one < u.value := by
  simp only [List.mem_filterMap, List.mem_filter]
  constructor
  · rintro ⟨s, ⟨member, loud⟩, told⟩
    refine ⟨⟨s, member, told⟩, ?_⟩
    simpa [isQuiet, told, UsageSample.exceeds] using loud
  · rintro ⟨⟨s, member, told⟩, exceeds⟩
    exact ⟨s, ⟨member, by simpa [isQuiet, told, UsageSample.exceeds] using exceeds⟩, told⟩

/-- With the quiet samples in front an application is over its entitlement by a slot without any, and with the others
in front by any slot that has one. -/
theorem settled_of_isOver_congr {samples : List Sample}
    (same : ∀ samples', samples.Perm samples' →
      ((ofSamples Sample.usage? samples).IsOver ↔ (ofSamples Sample.usage? samples').IsOver)) : Settled samples := by
  let quiet := samples.filter isQuiet
  let loud := samples.filter fun s => !isQuiet s
  have quietFirst : samples.Perm (quiet ++ loud) := (List.filter_append_perm isQuiet samples).symm
  by_cases someOver : ∃ u ∈ samples.filterMap Sample.usage?, .one < u.value
  · left
    obtain ⟨u, told, exceeds⟩ := someOver
    obtain ⟨first, firstLoud, found⟩ := find?_slot_in_front (mem_filter_not_isQuiet.mpr ⟨told, exceeds⟩) quiet
    have overLoudFirst : (ofSamples Sample.usage? (loud ++ quiet)).IsOver :=
      (isOver_ofSamples_iff _ _).mpr ⟨u.slot, first, found, (mem_filter_not_isQuiet.mp firstLoud).2⟩
    have overQuietFirst : (ofSamples Sample.usage? (quiet ++ loud)).IsOver :=
      (same _ quietFirst).mp ((same _ (quietFirst.trans List.perm_append_comm)).mpr overLoudFirst)
    obtain ⟨slot, v, vFound, vOver⟩ := (isOver_ofSamples_iff _ _).mp overQuietFirst
    obtain ⟨vTold, vSlot⟩ := mem_of_find?_slot vFound
    refine ⟨slot, ⟨v, (quietFirst.filterMap _).mem_iff.mpr vTold, vSlot⟩, ?_⟩
    rintro w wTold rfl
    by_contra notOver
    obtain ⟨first, firstQuiet, firstFound⟩ := find?_slot_in_front (mem_filter_isQuiet.mpr ⟨wTold, notOver⟩) loud
    cases Option.some.inj (vFound.symm.trans firstFound)
    exact (mem_filter_isQuiet.mp firstQuiet).2 vOver
  · right
    push Not at someOver
    exact someOver

theorem Settled.exceeds_congr {samples samples' : List Sample} (settled : Settled samples)
    (reordered : samples.Perm samples') :
    (ofSamples Sample.usage? samples).exceeds = (ofSamples Sample.usage? samples').exceeds := by
  rw [Bool.eq_iff_iff, exceeds_iff, exceeds_iff]
  exact settled.isOver_congr reordered

theorem settled_iff (samples : List Sample) : Settled samples ↔ ∀ samples', samples.Perm samples' →
    (ofSamples Sample.usage? samples).exceeds = (ofSamples Sample.usage? samples').exceeds := by
  constructor
  · intro settled samples'
    exact settled.exceeds_congr
  · intro same
    apply settled_of_isOver_congr
    intro samples' reordered
    rw [← exceeds_iff, ← exceeds_iff, same samples' reordered]

end Usage

namespace FleetReport

/-- Two platforms that tell of the same organization, and the same of each application, in an order of their own that
does not matter. -/
structure TellAlike (states : σ → τ → Prop) (ask : Collaborators σ) (ask' : Collaborators τ) : Prop where
  org : Corresponds states (· = ·) (ask .org : Session σ String) (ask' .org : Session τ String)
  username : Corresponds states (· = ·) (ask .username : Session σ String) (ask' .username : Session τ String)
  spaces : Corresponds states (· = ·) (ask .spaces : Session σ (List Space)) (ask' .spaces : Session τ (List Space))
  ratios : ∀ guid, Corresponds states (fun samples samples' => samples.Perm samples' ∧ Usage.Settled samples)
    (ask (.instant (ratioQuery guid)) : Session σ (List Sample))
    (ask' (.instant (ratioQuery guid)) : Session τ (List Sample))

variable {states : σ → τ → Prop} {ask : Collaborators σ} {ask' : Collaborators τ}

theorem corresponds_exceeding (alike : TellAlike states ask ask') (pairs : List (String × Application)) :
    Corresponds states (· = ·) (exceeding (Usage.cumulative ask) pairs) (exceeding (Usage.cumulative ask') pairs) := by
  induction pairs with
  | nil => exact corresponds_pure rfl
  | cons p rest ih =>
    have verdicts : Corresponds states (fun usage usage' : Usage => usage.exceeds = usage'.exceeds)
        (Usage.cumulative ask p.2.guid p.2.instances) (Usage.cumulative ask' p.2.guid p.2.instances) := by
      apply (alike.ratios p.2.guid).bind
      rintro samples samples' ⟨reordered, settled⟩
      exact corresponds_pure (settled.exceeds_congr reordered)
    apply verdicts.bind
    intro usage usage' sameVerdict
    apply ih.bind
    rintro others _ rfl
    rw [sameVerdict]
    exact corresponds_pure rfl

theorem corresponds_create (alike : TellAlike states ask ask') :
    Corresponds states (· = ·) (create ask (Usage.cumulative ask)) (create ask' (Usage.cumulative ask')) := by
  apply alike.org.bind
  rintro org _ rfl
  apply alike.username.bind
  rintro username _ rfl
  apply alike.spaces.bind
  rintro spaces _ rfl
  apply (corresponds_exceeding alike (placements spaces)).bind
  rintro pairs _ rfl
  exact corresponds_pure rfl

/-- Fleet reports do not depend on the order in which the samples of an application are listed, as long as each answer
is settled; an answer that is not settled classifies its application one way in one order and the other way in
another. -/
theorem create_order_free :
    (∀ samples : List Sample, Usage.Settled samples ↔ ∀ samples', samples.Perm samples' →
      (Usage.ofSamples Sample.usage? samples).exceeds = (Usage.ofSamples Sample.usage? samples').exceeds) ∧
    ∀ {σ τ : Type} {states : σ → τ → Prop} {ask : Collaborators σ} {ask' : Collaborators τ},
      TellAlike states ask ask' → ∀ s t, states s t →
        ((create ask (Usage.cumulative ask)).run s).1 = ((create ask' (Usage.cumulative ask')).run t).1 := by
  refine ⟨Usage.settled_iff, ?_⟩
  intro σ τ states ask ask' alike s t matched
  exact (corresponds_create alike s t matched).results.eq

def sampleOf (slot process time : String) (value : Binary64) : Sample :=
  ⟨.ofList [("instance_id", slot), ("process_instance_id", process)], time, value⟩

/-- An organization with one application, of which the store tells this. -/
def tellingOf (samples : List Sample) : Collaborators Unit
  | .org => Session.pure "org"
  | .username => Session.pure "me"
  | .spaces => Session.pure [⟨"dev", [.new "web" "guid"]⟩]
  | .instant _ => Session.pure samples
  | _ => Session.fail .unanswered

/-- The first instance was started again: its old process is listed before the new one. -/
def restarted : List Sample :=
  [sampleOf "0" "old" "40" .one, sampleOf "0" "new" "40" InstanceReports.double]

/-- The same, and a second instance that is over its entitlement. -/
def restartedBesideOver : List Sample :=
  sampleOf "1" "other" "40" InstanceReports.double :: restarted

theorem create_order_free_restarted :
    restartedBesideOver.Perm restartedBesideOver.reverse ∧
    ((create (tellingOf restartedBesideOver) (Usage.cumulative (tellingOf restartedBesideOver))).run ()).1 =
      ((create (tellingOf restartedBesideOver.reverse)
        (Usage.cumulative (tellingOf restartedBesideOver.reverse))).run ()).1 ∧
    ((create (tellingOf restartedBesideOver) (Usage.cumulative (tellingOf restartedBesideOver))).run ()).1 =
      .ok ⟨"org", "me", [⟨"dev", ["web"]⟩]⟩ := by
  have reordered : restartedBesideOver.Perm restartedBesideOver.reverse := (List.reverse_perm _).symm
  have told : restartedBesideOver.filterMap Sample.usage? =
      [⟨1, InstanceReports.second 40, InstanceReports.double⟩, ⟨0, InstanceReports.second 40, .one⟩,
        ⟨0, InstanceReports.second 40, InstanceReports.double⟩] := by
    decide +kernel
  have settled : Usage.Settled restartedBesideOver := by
    left
    rw [told]
    exact ⟨1, by decide +kernel, by decide +kernel⟩
  have alike : TellAlike (fun _ _ => True) (tellingOf restartedBesideOver) (tellingOf restartedBesideOver.reverse) :=
    ⟨corresponds_pure rfl, corresponds_pure rfl, corresponds_pure rfl, fun _ => corresponds_pure ⟨reordered, settled⟩⟩
  refine ⟨reordered, create_order_free.2 alike () () trivial, ?_⟩
  decide +kernel

/-- Listed the other way round, the samples of the two processes change the report. -/
theorem create_differs_restarted :
    restarted.Perm restarted.reverse ∧
    ((create (tellingOf restarted) (Usage.cumulative (tellingOf restarted))).run ()).1 = .ok ⟨"org", "me", []⟩ ∧
    ((create (tellingOf restarted.reverse) (Usage.cumulative (tellingOf restarted.reverse))).run ()).1 =
      .ok ⟨"org", "me", [⟨"dev", ["web"]⟩]⟩ := by
  refine ⟨(List.reverse_perm _).symm, ?_, ?_⟩
  · decide +kernel
  · decide +kernel

end FleetReport

namespace InstanceReports
variable {states : σ → τ → Prop} {ask : Collaborators σ} {ask' : Collaborators τ} {window : Window} {a : Application}

/-- Two stores that tell the same of an application, each in an order of its own, lead to the same reports on its
instances, if neither tells of a slot or of a time in a slot more than once. -/
theorem collect_order_free (alike : Usage.TellAlike states ask ask' a.guid window)
    (clear : Usage.Unambiguous (fun s => ∃ t, states s t) ask a window) {s : σ} {t : τ} (matched : states s t) :
    ((collect (Usage.historical ask window) (Usage.current ask (Usage.cumulative ask)) a).run s).1 =
      ((collect (Usage.historical ask' window) (Usage.current ask' (Usage.cumulative ask')) a).run t).1 := by
  have present := Usage.corresponds_current alike clear (Usage.corresponds_cumulative alike clear)
  have reports : Corresponds states (· = ·)
      (collect (Usage.historical ask window) (Usage.current ask (Usage.cumulative ask)) a)
      (collect (Usage.historical ask' window) (Usage.current ask' (Usage.cumulative ask')) a) := by
    apply (Usage.corresponds_historical alike clear).bind
    rintro past _ rfl
    apply present.bind
    rintro usage _ rfl
    exact corresponds_pure rfl
  exact (reports s t matched).results.eq

/-- A store that tells this of one application. -/
def storeOf (ratios rates : List Sample) (series : List Series) : Collaborators Unit
  | .instant query => Session.pure (if query = ratioQuery "guid" then ratios else rates)
  | .range .. => Session.pure series
  | _ => Session.fail .unanswered

theorem storeOf_ratios (ratios rates : List Sample) (series : List Series) :
    storeOf ratios rates series (.instant (ratioQuery "guid")) = Session.pure ratios :=
  congrArg Session.pure (if_pos rfl)

theorem storeOf_rates (ratios rates : List Sample) (series : List Series) :
    storeOf ratios rates series (.instant (rateQuery "guid")) = Session.pure rates :=
  congrArg Session.pure (if_neg (by decide +kernel))

def twoProcesses : Application :=
  (Application.new "web" "guid").withProcesses [(0, "p"), (1, "q")]

def ratiosOfBoth : List Sample :=
  [FleetReport.sampleOf "0" "p" "40" .one, FleetReport.sampleOf "1" "q" "40" double]

/-- The second process has no rate yet, and a process that is gone still has one. -/
def ratesOfOne : List Sample :=
  [FleetReport.sampleOf "0" "gone" "40" .one, FleetReport.sampleOf "0" "p" "40" double]

/-- The two series in the other order, and the points of the longer one as well. -/
def rearranged : List Series :=
  interleaved.reverse.map fun s => ⟨s.labels, s.points.reverse⟩

theorem unambiguous_twoProcesses : Usage.Unambiguous (fun _ => ∃ _ : Unit, True)
    (storeOf ratiosOfBoth ratesOfOne interleaved) twoProcesses ⟨.epoch, .epoch⟩ := by
  have ratios := storeOf_ratios ratiosOfBoth ratesOfOne interleaved
  have rates := storeOf_rates ratiosOfBoth ratesOfOne interleaved
  constructor
  · intro s s' samples _ asked
    change (storeOf ratiosOfBoth ratesOfOne interleaved (.instant (ratioQuery "guid"))).run s = _ at asked
    rw [ratios] at asked
    cases asked
    exact (by decide +kernel : ((ratiosOfBoth.filterMap Sample.usage?).map (·.slot)).Nodup)
  · intro s s' samples _ asked
    change (storeOf ratiosOfBoth ratesOfOne interleaved (.instant (rateQuery "guid"))).run s = _ at asked
    rw [rates] at asked
    cases asked
    exact (by decide +kernel :
      ((ratesOfOne.filterMap (Sample.usageOf? twoProcesses.instances)).map (·.slot)).Nodup)
  · intro s s' s'' present series _ asked seriesAsked
    change (storeOf ratiosOfBoth ratesOfOne interleaved (.instant (ratioQuery "guid"))).run s = _ at asked
    rw [ratios] at asked
    cases asked
    cases seriesAsked
    intro slot
    by_cases first : slot = 0
    · subst first
      decide +kernel
    · have labels : ∀ s ∈ interleaved, slotOf? s.labels = some 0 := by decide +kernel
      have none : Usage.arrived ratiosOfBoth interleaved slot = [] := by
        apply List.eq_nil_iff_forall_not_mem.mpr
        intro u member
        obtain ⟨_, s, isSeries, ⟨labelled, _⟩, _⟩ := Usage.mem_arrived.mp member
        exact first (Option.some.inj (labelled.symm.trans (labels s isSeries)))
      rw [none]
      exact List.nodup_nil

def reportsFrom (ask : Collaborators Unit) : Except Failure (List InstanceReport) :=
  ((collect (Usage.historical ask ⟨.epoch, .epoch⟩) (Usage.current ask (Usage.cumulative ask)) twoProcesses).run ()).1

theorem historical_storeOf (ratios rates : List Sample) (series : List Series) :
    (Usage.historical (storeOf ratios rates series) ⟨.epoch, .epoch⟩ twoProcesses.guid twoProcesses.instances).run () =
      (.ok (Usage.ofSeries (Usage.activeProcesses ratios) series), ()) :=
  rfl

/-- With too few rates, the ratios tell of the other slots. -/
theorem current_storeOf {ratios rates : List Sample} (series : List Series)
    (few : ¬ twoProcesses.instances.size ≤ (Usage.ofSamples (Sample.usageOf? twoProcesses.instances) rates).size) :
    (Usage.current (storeOf ratios rates series) (Usage.cumulative (storeOf ratios rates series)) twoProcesses.guid
        twoProcesses.instances).run () =
      (.ok ((Usage.ofSamples (Sample.usageOf? twoProcesses.instances) rates).fill
        (Usage.ofSamples Sample.usage? ratios) twoProcesses.instances.keys), ()) := by
  have fallback : (Usage.cumulative (storeOf ratios rates series) twoProcesses.guid twoProcesses.instances).run () =
      (.ok (Usage.ofSamples Sample.usage? ratios), ()) := rfl
  rw [Usage.current, show twoProcesses.guid = "guid" from rfl, storeOf_rates]
  refine (Session.run_bind_ok (Session.run_pure rates ())).trans ?_
  rw [if_neg few]
  exact Session.run_bind_ok fallback

/-- The first process has a rate, and the second one only a ratio. -/
theorem reportsFrom_interleaved : reportsFrom (storeOf ratiosOfBoth ratesOfOne interleaved) =
    .ok [⟨0, ⟨double, some ⟨second 20, second 30⟩⟩, ⟨double⟩⟩, ⟨1, ⟨.zero, none⟩, ⟨double⟩⟩] := by
  have active : Usage.activeProcesses ratiosOfBoth = ["p", "q"] := by decide +kernel
  have entries : ((Usage.ofSamples (Sample.usageOf? twoProcesses.instances) ratesOfOne).fill
      (Usage.ofSamples Sample.usage? ratiosOfBoth) twoProcesses.instances.keys).entries =
        [(0, [⟨0, second 40, double⟩]), (1, [⟨1, second 40, double⟩])] := by
    decide +kernel
  have past := historical_storeOf ratiosOfBoth ratesOfOne interleaved
  have present := @current_storeOf ratiosOfBoth ratesOfOne interleaved (by decide +kernel)
  rw [reportsFrom, collect, Session.run_bind_ok past, Session.run_bind_ok present, Session.run_pure]
  rw [active, reconcile, entries_ofSeries_interleaved (by decide +kernel), entries]
  decide +kernel

theorem collect_order_free_rearranged :
    reportsFrom (storeOf ratiosOfBoth ratesOfOne interleaved) =
      .ok [⟨0, ⟨double, some ⟨second 20, second 30⟩⟩, ⟨double⟩⟩, ⟨1, ⟨.zero, none⟩, ⟨double⟩⟩] ∧
    reportsFrom (storeOf ratiosOfBoth ratesOfOne interleaved) =
      reportsFrom (storeOf ratiosOfBoth.reverse ratesOfOne.reverse rearranged) := by
  have alike : Usage.TellAlike (fun _ _ => True) (storeOf ratiosOfBoth ratesOfOne interleaved)
      (storeOf ratiosOfBoth.reverse ratesOfOne.reverse rearranged) "guid" ⟨.epoch, .epoch⟩ := by
    constructor
    · rw [storeOf_ratios, storeOf_ratios]
      exact corresponds_pure (List.reverse_perm _).symm
    · rw [storeOf_rates, storeOf_rates]
      exact corresponds_pure (List.reverse_perm _).symm
    · refine corresponds_pure ⟨interleaved.reverse, (List.reverse_perm _).symm, ?_⟩
      rw [rearranged, List.forall₂_map_right_iff, List.forall₂_same]
      exact fun s _ => ⟨rfl, (List.reverse_perm _).symm⟩
  refine ⟨reportsFrom_interleaved, ?_⟩
  exact collect_order_free alike unambiguous_twoProcesses (s := ()) (t := ()) trivial

end InstanceReports
end CpuUsage
