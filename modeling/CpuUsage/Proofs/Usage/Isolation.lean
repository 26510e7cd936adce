import CpuUsage.Proofs.MetricsStore.Readable
import CpuUsage.Proofs.Program

/-! What a malformed record does to a fetch: nothing. Leaving such records out changes neither the usage that is found
nor the calls, whether they are left out of the answers or of the documents that carry the answers. -/
namespace CpuUsage
open MetricsStore Session

/-- Every way of finding usage goes the same course if malformed records are left out of the answers. -/
structure Usage.IgnoresMalformed (ask : Collaborators σ) (window : Window) (guid : String) (instances : Instances) :
    Prop where
  cumulative : RunsAlike (cumulative ask.recorded guid instances)
    (cumulative (ask.sifted .present).recorded guid instances)
  current : RunsAlike (current ask.recorded (Usage.cumulative ask.recorded) guid instances)
    (current (ask.sifted .present).recorded (Usage.cumulative (ask.sifted .present).recorded) guid instances)
  historical : RunsAlike (historical ask.recorded window guid instances)
    (historical (ask.sifted .past).recorded window guid instances)

theorem Usage.ignoresMalformed (ask : Collaborators σ) (window : Window) (guid : String) (instances : Instances) :
    IgnoresMalformed ask window guid instances where
  cumulative := (corresponds_cumulative_present ask guid instances).runsAlike
  current := (corresponds_current_present ask guid instances).runsAlike
  historical := (corresponds_historical_past ask window guid instances).runsAlike

namespace Platform
variable (p : Platform)

/-- Unreadable points can be left out of the documents of all replies, and every way of finding usage then comes to the
same result by the same requests. -/
structure IgnoresUnreadable (window : Window) (guid : String) (instances : Instances) : Prop where
  sifted : ∀ sifts, (∀ sift ∈ sifts, sift = withoutUnreadableSamples ∨ sift = withoutUnreadablePoints) →
    ∀ replies, SiftedReplies sifts replies (siftReplies sifts replies)
  cumulative : ∀ replies replies' sent, SiftedReplies [withoutUnreadableSamples] replies replies' →
    TalksAlike ((Usage.cumulative p.ask guid instances).run ⟨replies, sent⟩)
      ((Usage.cumulative p.ask guid instances).run ⟨replies', sent⟩)
  current : ∀ replies replies' sent,
    SiftedReplies [withoutUnreadableSamples, withoutUnreadableSamples] replies replies' →
    TalksAlike ((Usage.current p.ask (Usage.cumulative p.ask) guid instances).run ⟨replies, sent⟩)
      ((Usage.current p.ask (Usage.cumulative p.ask) guid instances).run ⟨replies', sent⟩)
  historical : ∀ replies replies' sent,
    SiftedReplies [withoutUnreadableSamples, withoutUnreadablePoints] replies replies' →
    TalksAlike ((Usage.historical p.ask window guid instances).run ⟨replies, sent⟩)
      ((Usage.historical p.ask window guid instances).run ⟨replies', sent⟩)

/-- A query at the present time, of whose answer unreadable samples are left out, and what is done with the answer. -/
theorem instant_talksAlike {query : String} {f : List Sample → Session Wire β} {sifts : List (Json → Json)}
    {replies replies' : List Reply} (sifted : SiftedReplies (withoutUnreadableSamples :: sifts) replies replies')
    (sent : List Request)
    (next : ∀ samples rest rest' sent, SiftedReplies sifts rest rest' →
      TalksAlike ((f samples).run ⟨rest, sent⟩) ((f samples).run ⟨rest', sent⟩)) :
    TalksAlike ((instant p.metrics query >>= f).run ⟨replies, sent⟩)
      ((instant p.metrics query >>= f).run ⟨replies', sent⟩) :=
  (asksOnce_instant p.metrics query).bind_talksAlike (fun _ _ => told_instant_sifted) sifted sent next

theorem cumulative_talksAlike (guid : String) (instances : Instances) {replies replies' : List Reply}
    (sifted : SiftedReplies [withoutUnreadableSamples] replies replies') (sent : List Request) :
    TalksAlike ((Usage.cumulative p.ask guid instances).run ⟨replies, sent⟩)
      ((Usage.cumulative p.ask guid instances).run ⟨replies', sent⟩) := by
  apply p.instant_talksAlike sifted sent
  intro samples rest rest' sent _
  exact talksAlike_pure _ rfl

theorem current_talksAlike (guid : String) (instances : Instances) {replies replies' : List Reply}
    (sifted : SiftedReplies [withoutUnreadableSamples, withoutUnreadableSamples] replies replies')
    (sent : List Request) :
    TalksAlike ((Usage.current p.ask (Usage.cumulative p.ask) guid instances).run ⟨replies, sent⟩)
      ((Usage.current p.ask (Usage.cumulative p.ask) guid instances).run ⟨replies', sent⟩) := by
  apply p.instant_talksAlike sifted sent
  intro samples rest rest' sent later
  by_cases whole : instances.size ≤ (Usage.ofSamples (Sample.usageOf? instances) samples).size
  · simp only [if_pos whole]
    exact talksAlike_pure _ rfl
  · simp only [if_neg whole]
    -- the fallback asks the second query, of the replies that are left
    exact (p.cumulative_talksAlike guid instances later sent).map _

theorem historical_talksAlike (window : Window) (guid : String) (instances : Instances) {replies replies' : List Reply}
    (sifted : SiftedReplies [withoutUnreadableSamples, withoutUnreadablePoints] replies replies')
    (sent : List Request) :
    TalksAlike ((Usage.historical p.ask window guid instances).run ⟨replies, sent⟩)
      ((Usage.historical p.ask window guid instances).run ⟨replies', sent⟩) := by
  apply p.instant_talksAlike sifted sent
  intro samples rest rest' sent later
  apply (asksOnce_range p.metrics _ _ _ _).bind_talksAlike (fun _ _ => told_range_sifted) later sent
  intro series rest rest' sent _
  exact talksAlike_pure _ rfl

theorem ignoresUnreadable (window : Window) (guid : String) (instances : Instances) :
    p.IgnoresUnreadable window guid instances where
  sifted := by
    intro sifts known
    apply siftedReplies_siftReplies
    intro sift member
    rcases known sift member with rfl | rfl
    · exact keeps_withoutUnreadableSamples
    · exact keeps_withoutUnreadablePoints
  cumulative := fun _ _ sent sifted => p.cumulative_talksAlike guid instances sifted sent
  current := fun _ _ sent sifted => p.current_talksAlike guid instances sifted sent
  historical := fun _ _ sent sifted => p.historical_talksAlike window guid instances sifted sent

end Platform

/-- The answer to a query that succeeds has come with one reply, and tells its readable records in order. -/
structure Api.TellsInOrder (api : Api) : Prop where
  instant : ∀ text w w' samples, (instant api text).run w = (.ok samples, w') →
    ∃ status body rest, w.replies = .answered status body true :: rest ∧ SamplesInOrder body samples
  range : ∀ text start stop stepNanos w w' series, (range api text start stop stepNanos).run w = (.ok series, w') →
    ∃ status body rest, w.replies = .answered status body true :: rest ∧ SeriesInOrder body series

theorem Api.tellsInOrder (api : Api) : api.TellsInOrder where
  instant := fun _ _ _ _ => instant_inOrder
  range := fun _ _ _ _ _ _ _ => range_inOrder

/-- Malformed records never change what the rest of an answer contributes. -/
theorem Usage.fetch_isolates_malformed (p : Platform) (window : Window) (guid : String) (instances : Instances) :
    (∀ (σ : Type) (ask : Collaborators σ), IgnoresMalformed ask window guid instances) ∧
      p.IgnoresUnreadable window guid instances ∧ p.metrics.TellsInOrder :=
  ⟨fun _ ask => ignoresMalformed ask window guid instances, p.ignoresUnreadable window guid instances,
    p.metrics.tellsInOrder⟩

/-! Answers with a record for each way of being malformed, and with others between them. -/
namespace Corrupt
open InstanceReports (second)

def labels (slot process : String) : Labels :=
  .ofList [("instance_id", slot), ("process_instance_id", process)]

def unnumbered : Labels :=
  .ofList [("process_instance_id", "p")]

def anonymous : Labels :=
  .ofList [("instance_id", "0")]

def point (time : String) : Point :=
  ⟨time, .one⟩

def samples : List Sample :=
  [⟨labels "0" "p", point "soon"⟩, ⟨labels "0" "p", point "1e300"⟩, ⟨labels "-1" "p", point "40"⟩,
    ⟨unnumbered, point "40"⟩, ⟨labels "0" "", point "40"⟩, ⟨anonymous, point "41"⟩, ⟨labels "1" "q", point "42"⟩]

def series : List Series :=
  [⟨labels "0" "p", [point "10", point "soon", point "1e300", point "20"]⟩, ⟨labels "-1" "p", [point "10"]⟩,
    ⟨unnumbered, [point "10"]⟩, ⟨labels "0" "", [point "10"]⟩, ⟨anonymous, [point "10"]⟩,
    ⟨labels "1" "q", [point "soon"]⟩]

def instances : Instances :=
  .ofList [(0, ⟨0, "p"⟩), (1, ⟨1, "q"⟩)]

def store : Collaborators Unit
  | .instant _ => Session.pure samples
  | .range .. => Session.pure series
  | _ => Session.fail .unanswered

def window : Window :=
  ⟨second 0, second 50⟩

/-- Both computations find this usage, and by these calls. -/
def BothFind (x y : Session (Unit × Conversation) Usage) (calls : List Call)
    (found : List (InstanceId × List UsageSample)) : Prop :=
  ∃ usage log log', x.run ((), []) = (.ok usage, (), log) ∧ y.run ((), []) = (.ok usage, (), log') ∧
    log.map Exchange.call = calls ∧ log'.map Exchange.call = calls ∧ usage.entries = found

theorem bothFind_of_runsAlike {x y : Session (Unit × Conversation) Usage} (alike : RunsAlike x y) {usage : Usage}
    {log : Conversation} (ran : x.run ((), []) = (.ok usage, (), log)) :
    BothFind x y (log.map Exchange.call) usage.entries := by
  obtain ⟨result, s, log₁, log₂, ran₁, ran₂, calls⟩ := alike ()
  cases ran.symm.trans ran₁
  exact ⟨usage, log, log₂, ran, ran₂, rfl, calls.symm, rfl⟩

def presentUsage : List (InstanceId × List UsageSample) :=
  [(0, [⟨0, second 40, .one⟩]), (1, [⟨1, second 42, .one⟩])]

def pastUsage : List (InstanceId × List UsageSample) :=
  [(0, [⟨0, second 10, .one⟩, ⟨0, second 20, .one⟩])]

theorem ofSamples_entries : (Usage.ofSamples Sample.usage? samples).entries = presentUsage := by
  decide +kernel

theorem fill_entries : ((Usage.ofSamples (Sample.usageOf? instances) samples).fill
    (Usage.ofSamples Sample.usage? samples) instances.keys).entries = presentUsage := by
  decide +kernel

theorem ofSeries_entries : (Usage.ofSeries (Usage.activeProcesses samples) series).entries = pastUsage := by
  have active : Usage.activeProcesses samples = ["p", "p", "p", "p", "q"] := by decide +kernel
  have read : series.filterMap (Series.usageOf? ["p", "p", "p", "p", "q"]) =
      [(0, [⟨0, second 10, .one⟩, ⟨0, second 20, .one⟩]), (1, [])] := by
    decide +kernel
  have sorted : [(⟨0, second 10, .one⟩ : UsageSample), ⟨0, second 20, .one⟩].mergeSort (fun a b => a.time ≤ b.time) =
      [⟨0, second 10, .one⟩, ⟨0, second 20, .one⟩] :=
    List.mergeSort_of_pairwise (by decide +kernel)
  rw [active, Usage.ofSeries, read]
  exact congrArg (fun samples => [((0 : InstanceId), samples)]) sorted

/-- Only one of the instances has a rate that counts, so the other one is told by the fallback. -/
theorem current_run :
    (Usage.current store.recorded (Usage.cumulative store.recorded) "g" instances).run ((), []) =
      (.ok ((Usage.ofSamples (Sample.usageOf? instances) samples).fill (Usage.ofSamples Sample.usage? samples)
        instances.keys), (), [⟨.instant (rateQuery "g"), .ok samples⟩, ⟨.instant (ratioQuery "g"), .ok samples⟩]) := by
  have fewer : ¬ instances.size ≤ (Usage.ofSamples (Sample.usageOf? instances) samples).size := by decide +kernel
  have asked : (store.recorded (.instant (rateQuery "g"))).run ((), []) =
      (.ok samples, (), [⟨.instant (rateQuery "g"), .ok samples⟩]) := rfl
  refine (Session.run_bind_ok asked).trans ?_
  simp only [if_neg fewer]
  rfl

/-- Points as they are on the wire. -/
def rawPoints : List MetricsStore.RawPoint :=
  [(.null, "1"), (.bool true, "1"), (.number (.ofNat 40), "NaN"), (.number (.ofNat 40), "inf"),
    (.number (.ofNat 40), "high"), (.number (.ofNat 40), "0.5"), (.ofString "soon", "0.5")]

/-- The second document has a point that is no number. -/
def replies : List Reply :=
  [.document PastSpike.presentBody, .document PastSpike.pastBody]

def clearedReplies : List Reply :=
  siftReplies [withoutUnreadableSamples, withoutUnreadablePoints] replies

theorem historical_answers {p : Platform} (reachable : p.metrics.Reachable) :
    (Usage.historical p.ask window "g" instances).Answers replies
      (Usage.ofSeries (Usage.activeProcesses PastSpike.samples) PastSpike.series) [] :=
  (instant_answers reachable PastSpike.present_told _ _).bind <|
    (range_answers reachable PastSpike.past_told _ _ _ _ _).bind <| answers_pure _ _

/-- The same usage is found by the same requests, with the point that is no number and without it. -/
theorem historical_cleared {p : Platform} (reachable : p.metrics.Reachable)
    (ignores : p.IgnoresUnreadable window "g" instances) : ∃ usage w w',
      (Usage.historical p.ask window "g" instances).run (.new replies) = (.ok usage, w) ∧
      (Usage.historical p.ask window "g" instances).run (.new clearedReplies) = (.ok usage, w') ∧
      w.sent = w'.sent ∧
      usage.entries = [(0, [⟨0, second 20, PastSpike.oneAndHalf⟩, ⟨0, second 30, PastSpike.half⟩])] := by
  have sifted := ignores.sifted [withoutUnreadableSamples, withoutUnreadablePoints] (by simp) replies
  have alike : TalksAlike ((Usage.historical p.ask window "g" instances).run (.new replies))
      ((Usage.historical p.ask window "g" instances).run (.new clearedReplies)) :=
    ignores.historical _ _ [] sifted
  obtain ⟨w, ran, _⟩ := historical_answers reachable (.new replies) rfl
  rw [ran] at alike
  obtain ⟨same, asked⟩ := alike
  exact ⟨_, w, ((Usage.historical p.ask window "g" instances).run (.new clearedReplies)).2, ran, Prod.ext same.symm rfl,
    asked, PastSpike.timeline⟩

end Corrupt

theorem Usage.fetch_isolates_malformed_corrupt :
    Sieve.present.samples Corrupt.samples = [⟨Corrupt.labels "0" "", Corrupt.point "40"⟩,
      ⟨Corrupt.anonymous, Corrupt.point "41"⟩, ⟨Corrupt.labels "1" "q", Corrupt.point "42"⟩] ∧
    Sieve.past.samples Corrupt.samples = [⟨Corrupt.labels "0" "p", Corrupt.point "soon"⟩,
      ⟨Corrupt.labels "0" "p", Corrupt.point "1e300"⟩, ⟨Corrupt.labels "-1" "p", Corrupt.point "40"⟩,
      ⟨Corrupt.unnumbered, Corrupt.point "40"⟩, ⟨Corrupt.labels "1" "q", Corrupt.point "42"⟩] ∧
    Sieve.past.series Corrupt.series = [⟨Corrupt.labels "0" "p", [Corrupt.point "10", Corrupt.point "20"]⟩,
      ⟨Corrupt.labels "1" "q", []⟩] ∧
    Corrupt.BothFind (cumulative Corrupt.store.recorded "g" Corrupt.instances)
      (cumulative (Corrupt.store.sifted .present).recorded "g" Corrupt.instances) [.instant (ratioQuery "g")]
      Corrupt.presentUsage ∧
    Corrupt.BothFind (current Corrupt.store.recorded (cumulative Corrupt.store.recorded) "g" Corrupt.instances)
      (current (Corrupt.store.sifted .present).recorded (cumulative (Corrupt.store.sifted .present).recorded) "g"
        Corrupt.instances)
      [.instant (rateQuery "g"), .instant (ratioQuery "g")] Corrupt.presentUsage ∧
    Corrupt.BothFind (historical Corrupt.store.recorded Corrupt.window "g" Corrupt.instances)
      (historical (Corrupt.store.sifted .past).recorded Corrupt.window "g" Corrupt.instances)
      [.instant (ratioQuery "g"), .range (ratioQuery "g") Corrupt.window.start Corrupt.window.stop historyStepNanos]
      Corrupt.pastUsage ∧
    Corrupt.rawPoints.map MetricsStore.isReadable = [false, false, false, false, false, true, true] ∧
    ∃ p usage w w', Platform.ofSettings targetSettings = .ok p ∧
      (historical p.ask Corrupt.window "g" Corrupt.instances).run (.new Corrupt.replies) = (.ok usage, w) ∧
      (historical p.ask Corrupt.window "g" Corrupt.instances).run (.new Corrupt.clearedReplies) = (.ok usage, w') ∧
      w.sent = w'.sent ∧
      usage.entries = [(0, [⟨0, InstanceReports.second 20, PastSpike.oneAndHalf⟩,
        ⟨0, InstanceReports.second 30, PastSpike.half⟩])] := by
  obtain ⟨p, set, reachable, _⟩ := PastSpike.exists_platform
  obtain ⟨ignores, unreadable, _⟩ := Usage.fetch_isolates_malformed p Corrupt.window "g" Corrupt.instances
  have alike := ignores Unit Corrupt.store
  have current := Corrupt.bothFind_of_runsAlike alike.current Corrupt.current_run
  have cumulative := Corrupt.bothFind_of_runsAlike alike.cumulative rfl
  have historical := Corrupt.bothFind_of_runsAlike alike.historical rfl
  refine ⟨by decide +kernel, by decide +kernel, by decide +kernel, ?_, ?_, ?_, by decide +kernel, p, ?_⟩
  · rw [← Corrupt.ofSamples_entries]
    exact cumulative
  · rw [← Corrupt.fill_entries]
    exact current
  · rw [← Corrupt.ofSeries_entries]
    exact historical
  · obtain ⟨usage, w, w', found⟩ := Corrupt.historical_cleared reachable unreadable
    exact ⟨usage, w, w', set, found⟩

end CpuUsage
