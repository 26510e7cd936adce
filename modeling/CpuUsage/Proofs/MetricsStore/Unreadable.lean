import CpuUsage.Proofs.Json.Fields
import CpuUsage.Proofs.Json.Soundness
import CpuUsage.Proofs.Request
import CpuUsage.Proofs.Usage.Malformed

/-! Points that make no sense stand alone on the wire too. A document of the metrics store tells the same whether they are
in it or not, the other records come in the order of the document, and so every way of finding usage talks to the servers
in the same way and comes to the same result. -/
namespace CpuUsage
open Decoder Session

namespace Json

/-- A change that leaves documents within the grammar. -/
def Keeps (f : Json → Json) : Prop :=
  ∀ doc, doc.WellFormed → (f doc).WellFormed

theorem Keeps.mapPlaces {f : Json → Json} (keeps : Keeps f) (name : String) {names : List String} {items : List Json}
    (wf : ∀ item ∈ items, item.WellFormed) : ∀ item ∈ Json.mapPlaces name f names items, item.WellFormed := by
  induction names generalizing items with
  | nil => cases items <;> exact wf
  | cons n names ih =>
    cases items with
    | nil => exact wf
    | cons item items =>
      obtain ⟨first, rest⟩ := List.forall_mem_cons.mp wf
      rw [Json.mapPlaces, List.forall_mem_cons]
      refine ⟨?_, ih rest⟩
      split
      · exact keeps item first
      · exact first

theorem Keeps.mapField {f : Json → Json} (keeps : Keeps f) (names : List String) (name : String) :
    Keeps (Json.mapField names name f) := by
  intro doc wf
  cases wf with
  | null => exact .null
  | bool b => exact .bool b
  | number wf => exact .number wf
  | string wf => exact .string wf
  | array wf => exact .array (keeps.mapPlaces name wf)
  | object named wf =>
    refine .object ?_ ?_
    · intro m member
      obtain ⟨m, held, rfl⟩ := List.mem_map.mp member
      rw [mapMember]
      split
      · exact named m held
      · exact named m held
    · intro m member
      obtain ⟨m, held, rfl⟩ := List.mem_map.mp member
      rw [mapMember]
      split
      · exact keeps m.2 (wf m held)
      · exact wf m held

theorem Keeps.mapItems {f : Json → Json} (keeps : Keeps f) : Keeps (Json.mapItems f) := by
  intro doc wf
  cases wf with
  | null => exact .null
  | bool b => exact .bool b
  | number wf => exact .number wf
  | string wf => exact .string wf
  | object named wf => exact .object named wf
  | array wf =>
    refine .array fun item member => ?_
    obtain ⟨item, held, rfl⟩ := List.mem_map.mp member
    exact keeps item (wf item held)

theorem keeps_filterItems (p : Json → Bool) : Keeps (filterItems p) := by
  intro doc wf
  cases wf with
  | null => exact .null
  | bool b => exact .bool b
  | number wf => exact .number wf
  | string wf => exact .string wf
  | object named wf => exact .object named wf
  | array wf => exact .array fun item member => wf item (List.mem_filter.mp member).1

end Json

namespace MetricsStore

/-- A time that is a number or a text, and a text for a finite value. -/
def isReadable (p : RawPoint) : Bool :=
  (match p.1 with
    | .number _ | .string _ => true
    | _ => false) &&
  (Binary64.read? p.2.toList).any (·.isFinite)

/-- The document of a query with other results. -/
def mapResults (f : Json → Json) : Json → Json :=
  Json.mapField ["status", "error", "data"] "data" (Json.mapField ["result"] "result" f)

/-- The document of a query at the present time, without the samples whose points cannot be read. -/
def withoutUnreadableSamples : Json → Json :=
  mapResults (Json.filterItems fun item => (rawSample item).all fun s => isReadable s.2)

/-- The document of a query over a window, without the points that cannot be read. -/
def withoutUnreadablePoints : Json → Json :=
  mapResults (Json.mapItems (Json.mapField ["metric", "values"] "values"
    (Json.filterItems fun item => (rawPoint 6 item).all isReadable)))

theorem keeps_mapResults {f : Json → Json} (keeps : Json.Keeps f) : Json.Keeps (mapResults f) :=
  (keeps.mapField ["result"] "result").mapField ["status", "error", "data"] "data"

theorem keeps_withoutUnreadableSamples : Json.Keeps withoutUnreadableSamples :=
  keeps_mapResults (Json.keeps_filterItems _)

theorem keeps_withoutUnreadablePoints : Json.Keeps withoutUnreadablePoints :=
  keeps_mapResults ((Json.keeps_filterItems _).mapField ["metric", "values"] "values").mapItems

def Outcome.mapResults (f : List α → List α) (o : Outcome α) : Outcome α :=
  { o with results := f o.results }

theorem results_mapResult {item : Decoder α} {f : Json → Json} {g : List α → List α} (empty : g [] = [])
    (same : ∀ doc, list item (f doc) = (list item doc).map g) (doc : Json) :
    results item (doc.mapField ["result"] "result" f) = (results item doc).map g := by
  simp only [results, fields_mapField]
  cases held : fields ["result"] doc with
  | none => rfl
  | some fs =>
    obtain ⟨result, rfl⟩ := List.length_eq_one_iff.mp (length_of_fields held)
    cases result with
    | value value => simpa [mapHeld, Field.map, withDefault] using same value
    | missing | cut => simp [mapHeld, Field.map, withDefault, empty]

theorem nullable_results_mapResult {item : Decoder α} {f : Json → Json} {g : List α → List α} (empty : g [] = [])
    (same : ∀ doc, list item (f doc) = (list item doc).map g) (doc : Json) :
    nullable (results item) (doc.mapField ["result"] "result" f) =
      (nullable (results item) doc).map (Option.map g) := by
  have read := results_mapResult empty same doc
  cases doc with
  | null => rfl
  | bool | number | string | array | object =>
    simp only [nullable, Json.mapField] at read ⊢
    rw [read, Option.map_map, Option.map_map]
    rfl

theorem outcome_mapResults {item : Decoder α} {f : Json → Json} {g : List α → List α} (empty : g [] = [])
    (same : ∀ doc, list item (f doc) = (list item doc).map g) (doc : Json) :
    outcome item (mapResults f doc) = (outcome item doc).map (Outcome.mapResults g) := by
  simp only [outcome, mapResults, fields_mapField]
  cases held : fields ["status", "error", "data"] doc with
  | none => rfl
  | some fs =>
    obtain ⟨status, error, data, rfl⟩ := List.length_eq_three.mp (length_of_fields held)
    have found : withDefault none (nullable (results item)) (data.map (Json.mapField ["result"] "result" f)) =
        (withDefault none (nullable (results item)) data).map (Option.map g) := by
      cases data with
      | value value => exact nullable_results_mapResult empty same value
      | missing | cut => rfl
    simp only [Option.map_some, mapHeld, List.zipWith_cons_cons, List.zipWith_nil_right, Option.bind_eq_bind,
      Option.bind_some, String.reduceEq, if_false, if_true, found]
    cases required string status with
    | none => rfl
    | some status =>
      cases withDefault none (nullable string) error with
      | none => rfl
      | some error =>
        cases withDefault none (nullable (results item)) data with
        | none => rfl
        | some found => cases found <;> simp [Outcome.mapResults, empty]

theorem rawSeries_mapValues (doc : Json) :
    rawSeries (doc.mapField ["metric", "values"] "values"
        (Json.filterItems fun item => (rawPoint 6 item).all isReadable)) =
      (rawSeries doc).map fun s => (s.1, s.2.filter isReadable) := by
  simp only [rawSeries, fields_mapField]
  cases held : fields ["metric", "values"] doc with
  | none => rfl
  | some fs =>
    obtain ⟨metric, values, rfl⟩ := List.length_eq_two.mp (length_of_fields held)
    have kept : withDefault [] (list (rawPoint 6))
        (values.map (Json.filterItems fun item => (rawPoint 6 item).all isReadable)) =
          (withDefault [] (list (rawPoint 6)) values).map (List.filter isReadable) := by
      cases values with
      | value value => exact list_filterItems (rawPoint 6) isReadable value
      | missing | cut => rfl
    simp only [Option.map_some, mapHeld, List.zipWith_cons_cons, List.zipWith_nil_right, Option.bind_eq_bind,
      Option.bind_some, String.reduceEq, if_false, if_true, kept]
    cases withDefault .empty labels metric with
    | none => rfl
    | some metric => cases withDefault [] (list (rawPoint 6)) values <;> rfl

theorem outcome_withoutUnreadableSamples (doc : Json) :
    outcome rawSample (withoutUnreadableSamples doc) =
      (outcome rawSample doc).map (Outcome.mapResults (List.filter fun s => isReadable s.2)) :=
  outcome_mapResults rfl (list_filterItems rawSample fun s => isReadable s.2) doc

theorem outcome_withoutUnreadablePoints (doc : Json) :
    outcome rawSeries (withoutUnreadablePoints doc) =
      (outcome rawSeries doc).map (Outcome.mapResults (List.map fun s => (s.1, s.2.filter isReadable))) :=
  outcome_mapResults rfl (list_mapItems rawSeries_mapValues) doc

theorem pointOf?_eq_none_of_unreadable {p : RawPoint} (unreadable : isReadable p = false) : pointOf? p = none := by
  obtain ⟨time, value⟩ := p
  rw [Option.eq_none_iff_forall_ne_some]
  intro point told
  simp only [pointOf?, Option.bind_eq_bind, Option.bind_eq_some_iff] at told
  obtain ⟨text, timed, x, read, kept⟩ := told
  split at kept
  · next finite =>
    have valued : (Binary64.read? value.toList).any (·.isFinite) = true := by rw [read]; exact finite
    rw [isReadable, valued, Bool.and_true] at unreadable
    cases time with
    | number | string => contradiction
    | null | bool | array | object => cases timed
  · contradiction

theorem samplesOf_filter (raw : List (Labels × RawPoint)) :
    samplesOf (raw.filter fun s => isReadable s.2) = samplesOf raw := by
  apply filterMap_filter_of_none
  intro s unreadable
  rw [pointOf?_eq_none_of_unreadable unreadable]
  rfl

theorem seriesOf_filter (raw : List (Labels × List RawPoint)) :
    seriesOf (raw.map fun s => (s.1, s.2.filter isReadable)) = seriesOf raw := by
  simp only [seriesOf, List.map_map, Function.comp_def]
  apply List.map_congr_left
  intro s _
  rw [filterMap_filter_of_none fun p => pointOf?_eq_none_of_unreadable]

end MetricsStore

/-- Two replies that are the same, or of which the second one carries the document of the first in a changed form. -/
inductive Reply.Sifted (sift : Json → Json) : Reply → Reply → Prop where
  | kept (r : Reply) : Sifted sift r r
  | changed {status : Nat} {body body' : String} {doc : Json} : 200 ≤ status → status < 300 →
      Json.read? body = some doc → Json.read? body' = some (sift doc) →
      Sifted sift (.answered status body true) (.answered status body' true)

/-- Replies that are changed one by one, each in its own way, and then no more. -/
inductive SiftedReplies : List (Json → Json) → List Reply → List Reply → Prop where
  | done (replies : List Reply) : SiftedReplies [] replies replies
  | silent (sifts : List (Json → Json)) : SiftedReplies sifts [] []
  | next {sift : Json → Json} {sifts : List (Json → Json)} {r r' : Reply} {rest rest' : List Reply} :
      r.Sifted sift r' → SiftedReplies sifts rest rest' → SiftedReplies (sift :: sifts) (r :: rest) (r' :: rest')

/-- The reply with the document of a success in its changed form. -/
def Reply.sift (sift : Json → Json) : Reply → Reply
  | .answered status body true =>
    match if 200 ≤ status ∧ status < 300 then Json.read? body else none with
    | some doc => .answered status (sift doc).compact true
    | none => .answered status body true
  | r => r

def siftReplies : List (Json → Json) → List Reply → List Reply
  | sift :: sifts, r :: rest => r.sift sift :: siftReplies sifts rest
  | _, replies => replies

theorem Reply.sifted_sift {sift : Json → Json} (keeps : Json.Keeps sift) (r : Reply) : r.Sifted sift (r.sift sift) := by
  unfold Reply.sift
  split
  · next status body =>
    split
    · next doc found =>
      split at found
      · next success =>
        have wellFormed := keeps doc (Json.wellFormed_of_read? found)
        exact .changed success.1 success.2 found (Json.read?_compact wellFormed)
      · contradiction
    · exact .kept _
  · exact .kept _

/-- Whatever the replies are, their documents can be changed. -/
theorem siftedReplies_siftReplies {sifts : List (Json → Json)} (keep : ∀ sift ∈ sifts, Json.Keeps sift)
    (replies : List Reply) : SiftedReplies sifts replies (siftReplies sifts replies) := by
  induction sifts generalizing replies with
  | nil => exact .done replies
  | cons sift sifts ih =>
    obtain ⟨keeps, keep⟩ := List.forall_mem_cons.mp keep
    cases replies with
    | nil => exact .silent (sift :: sifts)
    | cons r rest => exact .next (r.sifted_sift keeps) (ih keep rest)

theorem Api.decodeReply_of_read {decoder : Decoder α} {status : Nat} {body : String} {doc : Json} (low : 200 ≤ status)
    (high : status < 300) (read : Json.read? body = some doc) :
    decodeReply decoder status body true = match decoder doc with
      | some a => .ok a
      | none => .error .undecodable := by
  rw [decodeReply_accepted low high, decodeText?, read]
  rfl

/-- A change that a decoder sees as a change of its value, and what follows does not see at all. -/
theorem Reply.Sifted.told_bind {sift : Json → Json} {r r' : Reply} (sifted : r.Sifted sift r') {decoder : Decoder α}
    {g : α → α} {f : α → Except Failure β} (seen : ∀ doc, decoder (sift doc) = (decoder doc).map g)
    (unseen : ∀ a, f (g a) = f a) : (r.told decoder >>= f) = (r'.told decoder >>= f) := by
  cases sifted with
  | kept => rfl
  | changed low high read read' =>
    rw [told, told, Api.decodeReply_of_read low high read, Api.decodeReply_of_read low high read', seen]
    cases decoder _ with
    | none => rfl
    | some a => exact (unseen a).symm

namespace Session

/-- The same result after the same requests. -/
def TalksAlike (x y : Except Failure α × Wire) : Prop :=
  x.1 = y.1 ∧ x.2.sent = y.2.sent

theorem AsksOnce.bind_talksAlike {x : Session Wire α} {tell : Reply → Except Failure α} (asks : AsksOnce x tell)
    {f : α → Session Wire β} {sift : Json → Json} {sifts : List (Json → Json)} {replies replies' : List Reply}
    (same : ∀ r r', r.Sifted sift r' → tell r = tell r') (sifted : SiftedReplies (sift :: sifts) replies replies')
    (sent : List Request)
    (next : ∀ a rest rest' sent, SiftedReplies sifts rest rest' →
      TalksAlike ((f a).run ⟨rest, sent⟩) ((f a).run ⟨rest', sent⟩)) :
    TalksAlike ((x >>= f).run ⟨replies, sent⟩) ((x >>= f).run ⟨replies', sent⟩) := by
  cases asks with
  | never e unsent =>
    rw [run_bind_error (unsent _), run_bind_error (unsent _)]
    exact ⟨rfl, rfl⟩
  | once request told untold =>
    cases sifted with
    | silent => exact ⟨rfl, rfl⟩
    | @next _ _ r r' rest rest' first later =>
      have answer := told r rest sent
      have answer' := told r' rest' sent
      rw [← same r r' first] at answer'
      cases result : tell r with
      | error e =>
        rw [result] at answer answer'
        rw [run_bind_error answer, run_bind_error answer']
        exact ⟨rfl, rfl⟩
      | ok a =>
        rw [result] at answer answer'
        rw [run_bind_ok answer, run_bind_ok answer']
        exact next a rest rest' _ later

theorem talksAlike_pure (a : α) {w w' : Wire} (sent : w.sent = w'.sent) :
    TalksAlike ((pure a : Session Wire α).run w) ((pure a : Session Wire α).run w') :=
  ⟨rfl, sent⟩

theorem TalksAlike.map {x : Session Wire α} {w w' : Wire} (alike : TalksAlike (x.run w) (x.run w')) (f : α → β) :
    TalksAlike ((x >>= fun a => pure (f a)).run w) ((x >>= fun a => pure (f a)).run w') := by
  rcases ran : x.run w with ⟨result, v⟩
  rcases ran' : x.run w' with ⟨result', v'⟩
  rw [ran, ran'] at alike
  obtain ⟨rfl, sent⟩ := alike
  cases result with
  | error e =>
    rw [run_bind_error ran, run_bind_error ran']
    exact ⟨rfl, sent⟩
  | ok a =>
    rw [run_bind_ok ran, run_bind_ok ran']
    exact ⟨rfl, sent⟩

end Session

namespace MetricsStore

theorem told_instant_sifted {r r' : Reply} (sifted : r.Sifted withoutUnreadableSamples r') :
    ((r.told (outcome rawSample) >>= Outcome.toExcept) >>= fun raw => Except.ok (samplesOf raw)) =
      (r'.told (outcome rawSample) >>= Outcome.toExcept) >>= fun raw => Except.ok (samplesOf raw) := by
  simp only [bind_assoc]
  apply sifted.told_bind outcome_withoutUnreadableSamples
  intro o
  by_cases succeeded : o.status = "success"
  · simp only [Outcome.toExcept, Outcome.mapResults, succeeded]
    exact congrArg Except.ok (samplesOf_filter o.results)
  · simp [Outcome.toExcept, Outcome.mapResults, succeeded]

theorem told_range_sifted {r r' : Reply} (sifted : r.Sifted withoutUnreadablePoints r') :
    ((r.told (outcome rawSeries) >>= Outcome.toExcept) >>= fun raw => Except.ok (seriesOf raw)) =
      (r'.told (outcome rawSeries) >>= Outcome.toExcept) >>= fun raw => Except.ok (seriesOf raw) := by
  simp only [bind_assoc]
  apply sifted.told_bind outcome_withoutUnreadablePoints
  intro o
  by_cases succeeded : o.status = "success"
  · simp only [Outcome.toExcept, Outcome.mapResults, succeeded]
    exact congrArg Except.ok (seriesOf_filter o.results)
  · simp [Outcome.toExcept, Outcome.mapResults, succeeded]

end MetricsStore

end CpuUsage
