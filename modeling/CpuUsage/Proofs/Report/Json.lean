import CpuUsage.Proofs.Failure
import CpuUsage.Proofs.Json.Finite
import CpuUsage.Proofs.MetricsStore.Readable
import CpuUsage.Proofs.Program
import CpuUsage.Proofs.Report.Origin
import CpuUsage.Proofs.RoundTrip

/-! The document that is shown of an application can be read as a report. Its values are zeros and finite values that the
metrics store has sent, so each is written as a number. Another double may be read for such a number, but all else is
read as it was. -/
namespace CpuUsage
open Decoder InstanceReports

/-- The line that is shown of a document tells what the document tells. -/
theorem Tells.decodeText?_line {decoder : Decoder α} {doc : Json} {a : α} (tells : Tells decoder doc a) :
    Json.read? (joinLines [doc.pretty]) = some doc ∧ decodeText? decoder (joinLines [doc.pretty]) = some a := by
  have lineEnd : Json.Blanks ['\x0a'] := by
    simp [Json.Blanks, isJsonBlank]
  have line : joinLines [doc.pretty] = String.ofList ([] ++ (doc.indent 0 ++ ['\x0a'])) := by
    simp [joinLines, Json.pretty]
  have read := Json.read?_of_spells Json.blanks_nil (Json.spells_indent tells.wellFormed 0) lineEnd
  rw [line, decodeText?, read, Option.bind_some, tells.told]
  exact ⟨rfl, rfl⟩

/-- A finite double is told as some double. -/
theorem Binary64.exists_tells {x : Binary64} (finite : x.isFinite = true) :
    ∃ y, Tells binary64 (.ofBinary64 x) y := by
  obtain ⟨v, read⟩ := Option.isSome_iff_exists.mp (Numeral.value?_ofBinary64_isSome finite)
  obtain ⟨y, told⟩ : ∃ y, binary64 (.number (.ofBinary64 x)) = some y := by
    rw [binary64, read]
    exact ⟨_, rfl⟩
  rw [Json.ofBinary64, if_pos finite]
  exact ⟨y, .number (Numeral.wellFormed_ofBinary64 x), told⟩

namespace InstanceReport

def IsFinite (r : InstanceReport) : Prop :=
  r.historical.value.isFinite = true ∧ r.current.value.isFinite = true

/-- Both values are written as numbers. -/
def IsNumeric (r : InstanceReport) : Prop :=
  ∃ m n, Json.ofBinary64 r.historical.value = .number m ∧ Json.ofBinary64 r.current.value = .number n

theorem IsFinite.isNumeric {r : InstanceReport} (finite : r.IsFinite) : r.IsNumeric :=
  ⟨_, _, if_pos finite.1, if_pos finite.2⟩

theorem IsFinite.exists_tells {r : InstanceReport} (finite : r.IsFinite) :
    ∃ read, Tells decode r.toJson read ∧ read.slot = r.slot ∧
      read.historical.lastSpike = r.historical.lastSpike := by
  obtain ⟨x, past⟩ := Binary64.exists_tells finite.1
  obtain ⟨y, present⟩ := Binary64.exists_tells finite.2
  exact ⟨_, tells_toJson (HistoricalUsage.tells_toJson past) (CurrentUsage.tells_toJson present), rfl, rfl⟩

end InstanceReport

namespace ApplicationReport

/-- The same report of the same instances in the same order with the same spikes, whatever the values. -/
structure Resembles (r r' : ApplicationReport) : Prop where
  org : r.org = r'.org
  space : r.space = r'.space
  username : r.username = r'.username
  application : r.application = r'.application
  slots : r.instances.map (·.slot) = r'.instances.map (·.slot)
  spikes : r.instances.map (·.historical.lastSpike) = r'.instances.map (·.historical.lastSpike)

theorem exists_tells {report : ApplicationReport} (finite : ∀ r ∈ report.instances, r.IsFinite) :
    ∃ read, Tells decode report.toJson read ∧ read.Resembles report := by
  suffices each : ∃ reads, List.Forall₂ (fun r read => Tells InstanceReport.decode r.toJson read) report.instances reads ∧
      reads.map (·.slot) = report.instances.map (·.slot) ∧
      reads.map (·.historical.lastSpike) = report.instances.map (·.historical.lastSpike) by
    obtain ⟨reads, told, slots, spikes⟩ := each
    exact ⟨_, tells_toJson told, rfl, rfl, rfl, rfl, slots, spikes⟩
  generalize report.instances = reports at finite
  induction reports with
  | nil => exact ⟨[], .nil, rfl, rfl⟩
  | cons r rest ih =>
    obtain ⟨read, told, slot, spike⟩ := (finite r (.head _)).exists_tells
    obtain ⟨reads, toldBehind, slots, spikes⟩ := ih fun r' member => finite r' (.tail _ member)
    exact ⟨read :: reads, .cons told toldBehind, by simp [slot, slots], by simp [spike, spikes]⟩

end ApplicationReport

namespace MetricsStore

/-- Between these states, the computation came to `a` with a document as the first reply that it took. -/
def Heard (first last : Wire) (x : Session Wire α) (a : α) (body : String) : Prop :=
  ∃ before after status, Wire.Steps (fun _ => True) first before ∧
    before.replies.head? = some (.answered status body true) ∧ x.run before = (.ok a, after) ∧
    Wire.Steps (fun _ => True) after last

/-- Between these states, the store answered a query with a document that carries this text of a value. -/
inductive Carried (api : Api) (first last : Wire) (text : String) : Prop where
  | sample {query : String} {samples : List Sample} {body : String} {o : Outcome (Labels × RawPoint)} {labels : Labels}
      {time : Json} : Heard first last (instant api query) samples body →
      decodeText? (outcome rawSample) body = some o → (labels, time, text) ∈ o.results → Carried api first last text
  | point {query : String} {start stop : Instant} {stepNanos : Nat} {series : List Series} {body : String}
      {o : Outcome (Labels × List RawPoint)} {labels : Labels} {points : List RawPoint} {time : Json} :
      Heard first last (range api query start stop stepNanos) series body →
      decodeText? (outcome rawSeries) body = some o → (labels, points) ∈ o.results → (time, text) ∈ points →
      Carried api first last text

/-- A finite value that the store sent the text of between these states. -/
structure Sent (api : Api) (first last : Wire) (v : Binary64) : Prop where
  finite : v.isFinite = true
  carried : ∃ text, Carried api first last text ∧ Binary64.read? text.toList = some v

theorem read?_of_pointOf? {raw : RawPoint} {p : Point} (read : pointOf? raw = some p) :
    Binary64.read? raw.2.toList = some p.value := by
  simp only [pointOf?, Option.bind_eq_bind, Option.bind_eq_some_iff] at read
  obtain ⟨time, _, value, read, kept⟩ := read
  split at kept
  · cases kept
    exact read
  · contradiction

variable {api : Api} {first last w w' : Wire} {query : String}

theorem sent_of_instant {samples : List Sample} (before : Wire.Steps (fun _ => True) first w)
    (ran : (instant api query).run w = (.ok samples, w')) (after : Wire.Steps (fun _ => True) w' last) :
    ∀ s ∈ samples, Sent api first last s.point.value := by
  obtain ⟨r, rest, left, told⟩ := (asksOnce_instant api query).told_of_ok ran
  obtain ⟨status, body, o, rfl, decoded, _, rfl⟩ := exists_outcome_of_told told
  have heard : Heard first last (instant api query) _ body :=
    ⟨w, w', status, before, congrArg List.head? left, ran, after⟩
  intro s member
  obtain ⟨raw, held, kept⟩ := List.mem_filterMap.mp member
  obtain ⟨p, read, rfl⟩ := Option.map_eq_some_iff.mp kept
  exact ⟨isFinite_of_pointOf? read, _, .sample heard decoded held, read?_of_pointOf? read⟩

theorem sent_of_range {start stop : Instant} {stepNanos : Nat} {series : List Series}
    (before : Wire.Steps (fun _ => True) first w)
    (ran : (range api query start stop stepNanos).run w = (.ok series, w'))
    (after : Wire.Steps (fun _ => True) w' last) : ∀ s ∈ series, ∀ p ∈ s.points, Sent api first last p.value := by
  obtain ⟨r, rest, left, told⟩ := (asksOnce_range api query start stop stepNanos).told_of_ok ran
  obtain ⟨status, body, o, rfl, decoded, _, rfl⟩ := exists_outcome_of_told told
  have heard : Heard first last (range api query start stop stepNanos) _ body :=
    ⟨w, w', status, before, congrArg List.head? left, ran, after⟩
  intro s member p isPoint
  obtain ⟨raw, held, rfl⟩ := List.mem_map.mp member
  obtain ⟨rawPoint, isRaw, read⟩ := List.mem_filterMap.mp isPoint
  exact ⟨isFinite_of_pointOf? read, _, .point heard decoded held isRaw, read?_of_pointOf? read⟩

end MetricsStore

open MetricsStore

/-- The values in the answers to queries are sent by the store. -/
theorem Platform.ensures_ask (p : Platform) (first last : Wire) (c : Call) :
    Session.Ensures (Wire.Step fun _ => True) first last (p.ask c) (c.Carries (Sent p.metrics first last)) := by
  have permits : p.Permits fun _ => True := ⟨fun _ => trivial, fun _ => trivial⟩
  refine ⟨(permits.within_ask c).mono fun _ _ => trivial, ?_⟩
  intro w a w' before ran after
  cases c with
  | instant query => exact sent_of_instant before ran after
  | range query start stop step => exact sent_of_range before ran after
  | read | org | space | username | spaces | application => trivial

/-- Whatever the servers answer, a document that is shown is read as a report, of the same instances and spikes. -/
theorem showApplication_readable {s : Settings} {now : Instant} {coloured : Bool} {name text : String} {w w' : Wire}
    (shown : (showApplication s now .json coloured name).run w = (.ok text, w')) :
    ∃ (p : Platform) (start : Instant) (report read : ApplicationReport),
      Platform.ofSettings s = .ok p ∧ s.historyStart now = .ok start ∧
      (ApplicationReport.create p.ask ⟨s.readLimit, s.readMaxPages⟩ (Usage.historical p.ask ⟨start, now⟩)
        (Usage.current p.ask (Usage.cumulative p.ask)) name).run w = (.ok report, w') ∧
      text = report.text .json coloured ∧
      (∀ r ∈ report.instances, r.Carries (Sent p.metrics w w')) ∧
      Json.read? text = some report.toJson ∧ (∀ r ∈ report.instances, r.IsNumeric) ∧
      decodeText? ApplicationReport.decode text = some read ∧ read.Resembles report := by
  obtain ⟨p, start, report, platformSet, startSet, created, rfl⟩ := report_of_showApplication shown
  have carries := (ApplicationReport.ensures_create (p.ensures_ask w w') _ _ _).holds w report w' .refl created .refl
  have finite : ∀ r ∈ report.instances, r.IsFinite := by
    have bounded {v : Binary64} (told : v = .zero ∨ Sent p.metrics w w' v) : v.isFinite = true := by
      rcases told with rfl | sent
      · decide
      · exact sent.finite
    exact fun r member => ⟨bounded (carries r member).historical, bounded (carries r member).current⟩
  obtain ⟨read, tells, alike⟩ := ApplicationReport.exists_tells finite
  obtain ⟨parsed, decoded⟩ := tells.decodeText?_line
  exact ⟨p, start, report, read, platformSet, startSet, created, rfl, carries, parsed,
    fun r member => (finite r member).isNumeric, decoded, alike⟩

theorem showApplication_readable_pastSpike : ∃ (text : String) (w' : Wire) (read : ApplicationReport),
    (showApplication targetSettings (second 3000000) .json false "web").run (.new PastSpike.replies) =
      (.ok text, w') ∧
    decodeText? ApplicationReport.decode text = some read ∧ read.application = "web" ∧
    read.instances.map (·.slot) = [0] ∧
    read.instances.map (·.historical.lastSpike) = [some ⟨second 20, second 20⟩] := by
  obtain ⟨p, platformSet, metrics, catalog⟩ := PastSpike.exists_platform
  have spaceSet : targetSettings.targetSpace = .ok "space" := rfl
  have startSet : targetSettings.historyStart (second 3000000) = .ok (second 321600) := rfl
  obtain ⟨w', created, _⟩ :=
    PastSpike.create_answers metrics catalog ⟨second 321600, second 3000000⟩ (.new PastSpike.replies) rfl
  have shown := showApplication_run spaceSet startSet platformSet created .json false
  obtain ⟨p', start', report, read, platformSet', startSet', created', _, _, _, _, decoded, alike⟩ :=
    showApplication_readable shown
  cases platformSet.symm.trans platformSet'
  cases startSet.symm.trans startSet'
  cases created.symm.trans created'
  exact ⟨_, w', read, shown, decoded, alike.application, alike.slots, alike.spikes⟩

end CpuUsage
