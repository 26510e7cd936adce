import CpuUsage.Proofs.MetricsStore.Unreadable

/-! The records that are kept of an answer. Whatever is readable is told, in the order of the document, with the labels it
stands under there. -/
namespace CpuUsage
open Decoder

/-- What `filterMap` keeps stands in the order of what passes a test that foretells it. -/
theorem forall₂_filter_filterMap {p : α → Bool} {f : α → Option β} {as : List α}
    (foretold : ∀ a ∈ as, p a = (f a).isSome) :
    List.Forall₂ (fun a b => f a = some b) (as.filter p) (as.filterMap f) := by
  induction as with
  | nil => exact .nil
  | cons a rest ih =>
    have first := foretold a List.mem_cons_self
    have later := ih fun a member => foretold a (List.mem_cons_of_mem _ member)
    cases told : f a with
    | none => simpa [List.filter_cons, List.filterMap_cons, first, told] using later
    | some b => simpa [List.filter_cons, List.filterMap_cons, first, told] using later

namespace Decoder

theorem exists_of_mapM {f : α → Option β} {as : List α} {bs : List β} (told : as.mapM f = some bs) :
    ∀ b ∈ bs, ∃ a, f a = some b := by
  induction as generalizing bs with
  | nil =>
    cases told
    exact fun b member => absurd member List.not_mem_nil
  | cons a rest ih =>
    simp only [List.mapM_cons, Option.bind_eq_bind, Option.bind_eq_some_iff, Option.pure_def, Option.some.injEq] at told
    obtain ⟨b, first, bs', later, rfl⟩ := told
    intro b' member
    rcases List.mem_cons.mp member with rfl | member
    · exact ⟨a, first⟩
    · exact ih later b' member

theorem exists_of_list {item : Decoder α} {doc : Json} {as : List α} (told : list item doc = some as) :
    ∀ a ∈ as, ∃ d, item d = some a := by
  cases doc with
  | array items => exact exists_of_mapM told
  | null | bool | number | string | object => cases told

theorem exists_of_withDefault {inner : Decoder (List α)} {field : Field} {as : List α} {P : α → Prop}
    (told : withDefault [] inner field = some as) (each : ∀ doc as, inner doc = some as → ∀ a ∈ as, P a) :
    ∀ a ∈ as, P a := by
  cases field with
  | value doc => exact each doc as told
  | missing | cut =>
    cases told
    exact fun a member => absurd member List.not_mem_nil

end Decoder

namespace MetricsStore

/-- The time of a point stands for something, whatever it is. -/
theorem isMeaningful_of_rawPoint {around : Nat} {doc : Json} {p : RawPoint} (told : rawPoint around doc = some p) :
    p.1.isMeaningful = true := by
  unfold rawPoint pair at told
  split at told
  · simp only [Option.bind_eq_bind, Option.bind_eq_some_iff, Option.pure_def, Option.some.injEq] at told
    obtain ⟨time, told, _, _, rfl⟩ := told
    rw [anything] at told
    split at told
    · next kept =>
      cases told
      exact (Bool.and_eq_true _ _ ▸ kept).1
    · contradiction
  · contradiction

theorem isReadable_eq_isSome {p : RawPoint} (meaningful : p.1.isMeaningful = true) :
    isReadable p = (pointOf? p).isSome := by
  cases readable : isReadable p with
  | false => rw [pointOf?_eq_none_of_unreadable readable, Option.isSome_none]
  | true =>
    obtain ⟨time, value⟩ := p
    rw [isReadable, Bool.and_eq_true, Option.any_eq_true] at readable
    obtain ⟨timed, x, read, finite⟩ := readable
    have told : (timeText? time).isSome = true := by
      cases time with
      | number n => simpa [timeText?, Json.isMeaningful] using meaningful
      | string s => simpa [timeText?, Json.isMeaningful] using meaningful
      | null | bool | array | object => contradiction
    obtain ⟨text, told⟩ := Option.isSome_iff_exists.mp told
    simp [pointOf?, told, read, finite]

theorem isMeaningful_of_rawSample {doc : Json} {s : Labels × RawPoint} (told : rawSample doc = some s) :
    s.2.1.isMeaningful = true := by
  simp only [rawSample, Option.bind_eq_bind, Option.bind_eq_some_iff] at told
  obtain ⟨held, named, told⟩ := told
  obtain ⟨metric, value, rfl⟩ := List.length_eq_two.mp (length_of_fields named)
  simp only [Option.bind_eq_some_iff, Option.pure_def, Option.some.injEq] at told
  obtain ⟨_, _, p, told, rfl⟩ := told
  cases value with
  | value doc => exact isMeaningful_of_rawPoint told
  | missing | cut => contradiction

theorem isMeaningful_of_rawSeries {doc : Json} {s : Labels × List RawPoint} (told : rawSeries doc = some s) :
    ∀ p ∈ s.2, p.1.isMeaningful = true := by
  simp only [rawSeries, Option.bind_eq_bind, Option.bind_eq_some_iff] at told
  obtain ⟨held, named, told⟩ := told
  obtain ⟨metric, values, rfl⟩ := List.length_eq_two.mp (length_of_fields named)
  simp only [Option.bind_eq_some_iff, Option.pure_def, Option.some.injEq] at told
  obtain ⟨_, _, points, told, rfl⟩ := told
  refine exists_of_withDefault told fun doc points told p member => ?_
  obtain ⟨d, told⟩ := exists_of_list told p member
  exact isMeaningful_of_rawPoint told

theorem exists_of_results {item : Decoder α} {doc : Json} {found : List α} (told : results item doc = some found) :
    ∀ a ∈ found, ∃ d, item d = some a := by
  simp only [results, Option.bind_eq_bind, Option.bind_eq_some_iff] at told
  obtain ⟨held, named, told⟩ := told
  obtain ⟨result, rfl⟩ := List.length_eq_one_iff.mp (length_of_fields named)
  exact exists_of_withDefault told fun doc as => exists_of_list

theorem exists_of_outcome {item : Decoder α} {doc : Json} {o : Outcome α} (told : outcome item doc = some o) :
    ∀ a ∈ o.results, ∃ d, item d = some a := by
  simp only [outcome, Option.bind_eq_bind, Option.bind_eq_some_iff] at told
  obtain ⟨held, named, told⟩ := told
  obtain ⟨status, error, data, rfl⟩ := List.length_eq_three.mp (length_of_fields named)
  simp only [Option.bind_eq_some_iff, Option.pure_def, Option.some.injEq] at told
  obtain ⟨_, _, _, _, found, told, rfl⟩ := told
  cases found with
  | none => exact fun a member => absurd member List.not_mem_nil
  | some found =>
    cases data with
    | missing | cut => cases told
    | value doc =>
      cases doc with
      | null => cases told
      | bool | number | string | array | object =>
        simp only [withDefault, nullable, Option.map_eq_some_iff] at told
        obtain ⟨_, told, same⟩ := told
        cases same
        exact exists_of_results told

theorem Outcome.eq_of_toExcept {o : Outcome α} {found : List α} (told : o.toExcept = .ok found) :
    o.status = "success" ∧ found = o.results := by
  rw [toExcept] at told
  split at told
  · next succeeded =>
    cases told
    exact ⟨succeeded, rfl⟩
  · cases told

/-- A query that succeeds has been told of by a document that says so. -/
theorem exists_outcome_of_told {item : Decoder α} {f : List α → β} {r : Reply} {b : β}
    (told : ((r.told (outcome item) >>= Outcome.toExcept) >>= fun raw => .ok (f raw)) = .ok b) :
    ∃ status body o, r = .answered status body true ∧ decodeText? (outcome item) body = some o ∧
      o.status = "success" ∧ b = f o.results := by
  cases heard : r.told (outcome item) with
  | error e =>
    rw [heard] at told
    cases told
  | ok o =>
    obtain ⟨status, body, rfl, decoded⟩ := Reply.eq_of_told heard
    cases found : o.toExcept with
    | error e =>
      rw [heard] at told
      change (o.toExcept >>= _) = _ at told
      rw [found] at told
      cases told
    | ok raw =>
      rw [heard] at told
      change (o.toExcept >>= _) = _ at told
      rw [found] at told
      cases told
      obtain ⟨succeeded, rfl⟩ := Outcome.eq_of_toExcept found
      exact ⟨status, body, o, rfl, decoded, succeeded, rfl⟩

theorem readable_told {raw : List RawPoint} (meaningful : ∀ p ∈ raw, p.1.isMeaningful = true) :
    List.Forall₂ (fun p point => pointOf? p = some point) (raw.filter isReadable) (raw.filterMap pointOf?) :=
  forall₂_filter_filterMap fun p member => isReadable_eq_isSome (meaningful p member)

/-- A document with readable points, and the samples it tells, in the same order. -/
def SamplesInOrder (body : String) (samples : List Sample) : Prop :=
  ∃ o, decodeText? (outcome rawSample) body = some o ∧ o.status = "success" ∧
    List.Forall₂ (fun raw s => s.labels = raw.1 ∧ pointOf? raw.2 = some s.point)
      (o.results.filter fun raw => isReadable raw.2) samples

def SeriesInOrder (body : String) (series : List Series) : Prop :=
  ∃ o, decodeText? (outcome rawSeries) body = some o ∧ o.status = "success" ∧
    List.Forall₂ (fun raw s => s.labels = raw.1 ∧
      List.Forall₂ (fun p point => pointOf? p = some point) (raw.2.filter isReadable) s.points) o.results series

theorem instant_inOrder {api : Api} {text : String} {w w' : Wire} {samples : List Sample}
    (ran : (instant api text).run w = (.ok samples, w')) :
    ∃ status body rest, w.replies = .answered status body true :: rest ∧ SamplesInOrder body samples := by
  obtain ⟨r, rest, left, told⟩ := (asksOnce_instant api text).told_of_ok ran
  obtain ⟨status, body, o, rfl, decoded, succeeded, rfl⟩ := exists_outcome_of_told told
  refine ⟨status, body, rest, left, o, decoded, succeeded, ?_⟩
  obtain ⟨doc, _, decoded⟩ := Option.bind_eq_some_iff.mp decoded
  apply (forall₂_filter_filterMap fun raw member => ?_).imp
  · intro raw s told
    obtain ⟨point, read, rfl⟩ := Option.map_eq_some_iff.mp told
    exact ⟨rfl, read⟩
  · obtain ⟨d, told⟩ := exists_of_outcome decoded raw member
    rw [Option.isSome_map]
    exact isReadable_eq_isSome (isMeaningful_of_rawSample told)

theorem range_inOrder {api : Api} {text : String} {start stop : Instant} {stepNanos : Nat} {w w' : Wire}
    {series : List Series} (ran : (range api text start stop stepNanos).run w = (.ok series, w')) :
    ∃ status body rest, w.replies = .answered status body true :: rest ∧ SeriesInOrder body series := by
  obtain ⟨r, rest, left, told⟩ := (asksOnce_range api text start stop stepNanos).told_of_ok ran
  obtain ⟨status, body, o, rfl, decoded, succeeded, rfl⟩ := exists_outcome_of_told told
  refine ⟨status, body, rest, left, o, decoded, succeeded, ?_⟩
  obtain ⟨doc, _, decoded⟩ := Option.bind_eq_some_iff.mp decoded
  rw [seriesOf, List.forall₂_map_right_iff, List.forall₂_same]
  intro raw member
  obtain ⟨d, told⟩ := exists_of_outcome decoded raw member
  exact ⟨rfl, readable_told (isMeaningful_of_rawSeries told)⟩

end MetricsStore
end CpuUsage
