import CpuUsage.Proofs.Failure
import CpuUsage.Proofs.Json.Number
import CpuUsage.Proofs.MetricsStore.Envelopes
import CpuUsage.Proofs.Processes.Course
import CpuUsage.Proofs.Processes.Store

/-! The time at which the next page resumes. It comes as a number or as a text, is held as an instant and is sent back as a
text, and all the way it stays the same count of nanoseconds, before the epoch as well. -/
namespace CpuUsage
open Decoder

/-- A document that tells a number of at most 64 bits: the number itself, or its decimal text. -/
inductive Json.IsNumeral (n : Int) : Json → Prop where
  | number : IsNumeral n (.number ⟨n < 0, Nat.toDigits 10 n.natAbs, none, none⟩)
  | text {s : List Piece} : Piece.meaning? s = some (toString n).toList → IsNumeral n (.string s)

theorem int64_number {n : Int} (fits : fitsInt64 n = true) :
    int64 (.number ⟨n < 0, Nat.toDigits 10 n.natAbs, none, none⟩) = some n := by
  have bounds : -9223372036854775808 ≤ n ∧ n ≤ 9223372036854775807 := by simpa [fitsInt64] using fits
  have read : Numeral.accumulate 0 (Nat.toDigits 10 n.natAbs) = (n.natAbs, []) := by
    have spelt := digitsValue_toDigits n.natAbs
    rw [Numeral.accumulate_eq (by rw [spelt, uint64Bound]; omega), spelt]
  by_cases negative : n < 0
  · have range : 0 < n.natAbs ∧ n.natAbs ≤ 9223372036854775808 := by omega
    have value : -(n.natAbs : Int) = n := by omega
    simp only [int64, Numeral.value?, read, negative, decide_true, Bool.not_true, Bool.false_eq_true, if_false, range,
      and_self, if_true, value]
  · have value : (n.natAbs : Int) = n := by omega
    simp only [int64, Numeral.value?, read, negative, decide_false, Bool.not_false, if_true, value, fits]

namespace MetricsStore

/-- Either way the decimal text of the number arrives. -/
theorem timestamp_of_isNumeral {n : Int} {doc : Json} (fits : fitsInt64 n = true) (numeral : doc.IsNumeral n) :
    timestamp doc = some (toString n) := by
  cases numeral with
  | number => simp only [timestamp, int64_number fits, Option.map_some]
  | text means => rw [timestamp, string, means, Option.map_some, String.ofList_toList]

/-- A document of an envelope that tells this time. -/
def IsStamped (n : Int) (doc : Json) : Prop :=
  ∃ source slot time tags gauge, time.IsNumeral n ∧
    fields ["source_id", "instance_id", "timestamp", "tags", "gauge"] doc =
      some [source, slot, .value time, tags, gauge]

theorem timestamp_of_isStamped {n : Int} {doc : Json} {e : Envelope} (fits : fitsInt64 n = true)
    (stamped : IsStamped n doc) (told : envelope doc = some e) : e.timestamp = toString n := by
  obtain ⟨source, slot, time, tags, gauge, numeral, held⟩ := stamped
  simp only [envelope, held, withDefault, timestamp_of_isNumeral fits numeral, Option.bind_eq_bind,
    Option.bind_eq_some_iff, Option.pure_def, Option.bind_some, Option.some.injEq] at told
  obtain ⟨_, _, _, _, _, _, _, _, rfl⟩ := told
  rfl

/-- A document of a page with these documents of envelopes. -/
def Holds (doc : Json) (docs : List Json) : Prop :=
  ∃ inner, fields ["envelopes"] doc = some [.value inner] ∧ fields ["batch"] inner = some [.value (.array docs)]

theorem page_of_holds {doc : Json} {docs : List Json} (holds : Holds doc docs) : page doc = docs.mapM envelope := by
  obtain ⟨inner, outside, inside⟩ := holds
  simp only [page, outside, batch, inside, withDefault, list, Option.bind_eq_bind, Option.bind_some]

/-- A reply with a full page: the last of its envelopes that shows a time is told with the time `n`. -/
structure FullPage (limit : Nat) (n : Int) where
  status : Nat
  body : String
  doc : Json
  before : List Json
  last : Json
  after : List Json
  first : List Envelope
  resume : Envelope
  rest : List Envelope
  accepted : 200 ≤ status ∧ status < 300
  read : Json.read? body = some doc
  holds : Holds doc (before ++ last :: after)
  decodedFirst : before.mapM envelope = some first
  decoded : envelope last = some resume
  decodedRest : after.mapM envelope = some rest
  full : limit ≤ (first ++ resume :: rest).length
  stamped : IsStamped n last
  untimed : ∀ e ∈ rest, readNanos? e.timestamp = none

namespace FullPage
variable {limit : Nat} {n : Int}

def reply (p : FullPage limit n) : Reply :=
  .answered p.status p.body true

def envelopes (p : FullPage limit n) : List Envelope :=
  p.first ++ p.resume :: p.rest

theorem told (p : FullPage limit n) : p.reply.told page = .ok p.envelopes := by
  have decoded : decodeText? page p.body = some p.envelopes := by
    rw [decodeText?, p.read, Option.bind_some, page_of_holds p.holds, List.mapM_append, List.mapM_cons,
      p.decodedFirst, p.decoded, p.decodedRest]
    rfl
  rw [reply, Reply.told, Api.decodeReply_accepted p.accepted.1 p.accepted.2, decoded]

/-- The next page resumes at just this time. -/
theorem resumes (p : FullPage limit n) (fits : fitsInt64 n = true) :
    ∃ t, Processes.resumeAt? p.envelopes = some t ∧ t.toNanos = n ∧ t.Exact := by
  obtain ⟨t, made, count⟩ := Instant.exists_ofNanos? fits
  have exact := Instant.exact_of_ofNanos? fits made
  have time : readNanos? p.resume.timestamp = some t := by
    rw [timestamp_of_isStamped fits p.stamped p.decoded, ← count]
    exact readNanos?_toNanos exact
  exact ⟨t, Processes.resumeAt?_eq_some_iff.mpr ⟨p.first, p.resume, p.rest, rfl, time, p.untimed⟩, count, exact⟩

end FullPage

/-- The request of a resolution for the page that stops there. -/
def pageRequest (p : Platform) (source : String) (limit : Nat) (stop : Option Instant) : Request :=
  p.metrics.request (readUrl p.metrics.base source .epoch (Processes.pageOptions limit stop))

section
variable {p : Platform} (reachable : p.metrics.Reachable) {source : String} (guid : IsGuid source)
include reachable guid

/-- A resolution that may read a page requests this one before any other. -/
theorem sent_readPages (limit pages : Nat) (stop : Option Instant) (found : Processes) (w : Wire) :
    ∃ later, ((Processes.readPages p.ask source limit (pages + 1) stop found).run w).2.sent =
      w.sent ++ pageRequest p source limit stop :: later := by
  have requested := sent_read reachable guid .epoch (Processes.pageOptions limit stop) w
  rcases answered : (read p.metrics source .epoch (Processes.pageOptions limit stop)).run w with ⟨answer, w'⟩
  rw [answered] at requested
  cases answer with
  | error e =>
    have ran : (Processes.readPages p.ask source limit (pages + 1) stop found).run w = (.error e, w') :=
      Session.run_bind_error answered
    refine ⟨[], ?_⟩
    rw [ran]
    exact requested
  | ok page =>
    have permits : p.Permits fun _ => True := ⟨fun _ => trivial, fun _ => trivial⟩
    have goesOn : ∃ x : Session Wire Processes, Session.Within (Wire.Step fun _ => True) Failure.IsRemote x ∧
        (Processes.readPages p.ask source limit (pages + 1) stop found).run w = x.run w' := by
      refine ⟨_, ?_, Session.run_bind_ok answered⟩
      split
      · exact Session.within_pure _
      · split
        · exact Processes.within_readPages permits.within_ask _ _ _ _ _
        · exact Session.within_pure _
    obtain ⟨x, within, ran⟩ := goesOn
    obtain ⟨made, appended, _⟩ := Wire.Steps.sent_append (within.steps w')
    refine ⟨made, ?_⟩
    rw [ran, appended, requested, List.append_assoc]
    rfl

/-- Behind a full page the next one is requested, and it stops at the time that the full page was told with. -/
theorem sent_readPages_full {limit : Nat} {n : Int} (full : FullPage limit n) (fits : fitsInt64 n = true) (pages : Nat)
    (stop : Option Instant) (found : Processes) (rest : List Reply) (sent : List Request) :
    ∃ t later, t.toNanos = n ∧ t.Exact ∧
      ((Processes.readPages p.ask source limit (pages + 2) stop found).run ⟨full.reply :: rest, sent⟩).2.sent =
        sent ++ pageRequest p source limit stop :: pageRequest p source limit (some t) :: later := by
  obtain ⟨t, resumes, count, exact⟩ := full.resumes fits
  have sends : p.metrics.Sends (readUrl p.metrics.base source .epoch (Processes.pageOptions limit stop)) :=
    ⟨reachable.http, reachable.header⟩
  have answered : (read p.metrics source .epoch (Processes.pageOptions limit stop)).run ⟨full.reply :: rest, sent⟩ =
      (.ok full.envelopes, ⟨rest, sent ++ [pageRequest p source limit stop]⟩) := by
    rw [read_eq_fetch reachable guid, Api.fetch_run sends, full.told]
    rfl
  have goesOn : (Processes.readPages p.ask source limit (pages + 2) stop found).run ⟨full.reply :: rest, sent⟩ =
      (Processes.readPages p.ask source limit (pages + 1) (some t) (found.record full.envelopes)).run
        ⟨rest, sent ++ [pageRequest p source limit stop]⟩ := by
    refine (Session.run_bind_ok answered).trans ?_
    have enough : ¬ full.envelopes.length < limit := Nat.not_lt.mpr full.full
    rw [if_neg enough, resumes]
  obtain ⟨later, requested⟩ := sent_readPages reachable guid limit pages (some t) (found.record full.envelopes)
    ⟨rest, sent ++ [pageRequest p source limit stop]⟩
  refine ⟨t, later, count, exact, ?_⟩
  rw [goesOn, requested, List.append_assoc]
  rfl

end

/-- What a source is asked for survives the request. -/
structure AsksExactly (p : Platform) (source : String) : Prop where
  /-- One request, whatever the reply. -/
  sends : ∀ start o w, ((read p.metrics source start o).run w).2.sent =
    w.sent ++ [p.metrics.request (readUrl p.metrics.base source start o)]
  /-- Its form has one parameter for the start and for each option that is set, and no others. -/
  form : ∀ start o, ExactTimes start o →
    (readUrl p.metrics.base source start o).query.bind Parameters.decode? = some (exactParameters start o)
  recovered : ∀ start o, ExactTimes start o → optionsOf? (exactParameters start o) = some (start, o)
  distinct : ∀ start o start' o', ExactTimes start o → ExactTimes start' o' →
    (readUrl p.metrics.base source start o).query = (readUrl p.metrics.base source start' o').query →
      start = start' ∧ o = o'
  /-- Any time that is read off an envelope is exact. -/
  exactTime : ∀ text t, readNanos? text = some t → t.Exact
  /-- Behind a full page, if another one may be read, this is asked for up to the time that the full one was told with. -/
  cursor : ∀ n, fitsInt64 n = true → ∀ limit (full : FullPage limit n) pages, 2 ≤ pages → ∀ stop found rest sent,
    ∃ next ps later,
      ((Processes.readPages p.ask source limit pages stop found).run ⟨full.reply :: rest, sent⟩).2.sent =
        sent ++ pageRequest p source limit stop :: p.metrics.request next :: later ∧
      next.query.bind Parameters.decode? = some ps ∧ ps.values "end_time" = [toString n]

theorem asks_exactly {p : Platform} (reachable : p.metrics.Reachable) {source : String} (guid : IsGuid source) :
    AsksExactly p source where
  sends := sent_read reachable guid
  form := fun start o => decode?_readUrl p.metrics.base source
  recovered := fun start o => optionsOf?_exactParameters
  distinct := fun start o start' o' => eq_of_query_eq
  exactTime := by
    intro text t read
    obtain ⟨n, number, made⟩ := Option.bind_eq_some_iff.mp read
    exact Instant.exact_of_ofNanos? (EnvelopeStore.fits_of_readInt64? number) made
  cursor := by
    intro n fits limit full pages another stop found rest sent
    obtain ⟨pages, rfl⟩ := Nat.exists_eq_add_of_le' another
    obtain ⟨t, later, count, exact, requested⟩ :=
      sent_readPages_full reachable guid full fits pages stop found rest sent
    have epoch : Instant.epoch.Exact := ⟨by decide, by decide⟩
    have times : ExactTimes .epoch (Processes.pageOptions limit (some t)) := by
      refine ⟨epoch, fun t' same => ?_⟩
      cases same
      exact exact
    have values := valuesAre_exactParameters .epoch (Processes.pageOptions limit (some t))
    refine ⟨_, _, later, requested, decode?_readUrl _ _ times, ?_⟩
    rw [values.stop, ← count]
    rfl

/-! A page that ends before the epoch, with an envelope without a time on either side of the last time. -/
namespace BeforeEpoch

def platform : Platform :=
  let api := Api.new ⟨"http".toList, some ⟨[], [], .name ['a'], none⟩, .segments [[]], none, none⟩ "t"
  ⟨api, ⟨api, "o", "s", "me"⟩⟩

def name (text : String) : List Piece :=
  text.toList.map Piece.plain

def early : Json :=
  .object [(name "timestamp", .number ⟨true, ['1', '5'], none, none⟩)]

def broken : Json :=
  .object [(name "timestamp", .string (name "soon"))]

def doc : Json :=
  .object [(name "envelopes", .object [(name "batch", .array [broken, early, broken])])]

def body : String :=
  "\x7b\"envelopes\":\x7b\"batch\":[\x7b\"timestamp\":\"soon\"\x7d,\x7b\"timestamp\":-15\x7d," ++
    "\x7b\"timestamp\":\"soon\"\x7d]\x7d\x7d"

/-- An envelope that tells nothing but its time. -/
def stamped (time : String) : Envelope :=
  ⟨"", "", time, .empty, .empty⟩

theorem accepted : 200 ≤ 200 ∧ 200 < 300 := by
  decide

theorem read_body : Json.read? body = some doc := by
  cbv

theorem holds_doc : Holds doc ([broken] ++ early :: [broken]) :=
  ⟨.object [(name "batch", .array [broken, early, broken])], by cbv, by cbv⟩

theorem envelope_early : envelope early = some (stamped "-15") := by
  cbv

theorem envelopes_broken : [broken].mapM envelope = some [stamped "soon"] := by
  cbv

theorem full : 3 ≤ ([stamped "soon"] ++ stamped "-15" :: [stamped "soon"]).length := by
  decide

theorem isStamped_early : IsStamped (-15) early := by
  have digits : Nat.toDigits 10 (-15 : Int).natAbs = ['1', '5'] := by decide +kernel
  have numeral := Json.IsNumeral.number (n := -15)
  rw [digits] at numeral
  exact ⟨.missing, .missing, _, .missing, .missing, numeral, by cbv⟩

theorem untimed_broken : ∀ e ∈ [stamped "soon"], readNanos? e.timestamp = none := by
  intro e member
  cases List.mem_singleton.mp member
  decide +kernel

def fullPage : FullPage 3 (-15) where
  status := 200
  body := body
  doc := doc
  before := [broken]
  last := early
  after := [broken]
  first := [stamped "soon"]
  resume := stamped "-15"
  rest := [stamped "soon"]
  accepted := accepted
  read := read_body
  holds := holds_doc
  decodedFirst := envelopes_broken
  decoded := envelope_early
  decodedRest := envelopes_broken
  full := full
  stamped := isStamped_early
  untimed := untimed_broken

end BeforeEpoch

theorem asks_exactly_beforeEpoch : BeforeEpoch.platform.metrics.Reachable ∧ IsGuid "0b-9_Z" ∧
    AsksExactly BeforeEpoch.platform "0b-9_Z" ∧ ∃ next ps later,
      ((Processes.readPages BeforeEpoch.platform.ask "0b-9_Z" 3 2 none .empty).run
          ⟨[BeforeEpoch.fullPage.reply], []⟩).2.sent =
        pageRequest BeforeEpoch.platform "0b-9_Z" 3 none :: BeforeEpoch.platform.metrics.request next :: later ∧
      next.query.bind Parameters.decode? = some ps ∧ ps.values "end_time" = ["-15"] := by
  have reachable : BeforeEpoch.platform.metrics.Reachable := by decide +kernel
  have guid : IsGuid "0b-9_Z" := by
    unfold IsGuid
    decide +kernel
  have exact := asks_exactly reachable guid
  have written : toString (-15 : Int) = "-15" := by decide +kernel
  obtain ⟨next, ps, later, sent, form, stops⟩ :=
    exact.cursor (-15) (by decide) 3 BeforeEpoch.fullPage 2 (by decide) none .empty [] []
  exact ⟨reachable, guid, exact, next, ps, later, sent, form, stops.trans (congrArg ([·]) written)⟩

end MetricsStore
end CpuUsage
