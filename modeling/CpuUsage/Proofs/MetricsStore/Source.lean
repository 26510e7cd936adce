import CpuUsage.Proofs.MetricsStore.Envelopes
import CpuUsage.Proofs.Url.Host
import CpuUsage.Proofs.Url.Segment

/-! Requests for raw envelopes, of any source. The name of the source is put into the path as it is, and so it is what a
URL makes of it that is asked for: the envelopes of that source if the name stands alone, and otherwise something else. -/
namespace CpuUsage.MetricsStore
open Url

/-- This URL is for the envelopes of a source, and for nothing else: below the folder of the base, a segment that stands
for the source, and with it the parameters of the read. -/
def IsReadOf (base : Url) (source : String) (start : Instant) (o : ReadOptions) (u : Url) : Prop :=
  ∃ segment, u.path = .segments (base.folder ++ (readFolder ++ [segment])) ∧
    ofUtf8? (percentDecode segment) = some source ∧ u.query = some (readParameters start o).encode.toList

/-- The rest of a URL that the name of a source makes, with what is taken for its query and its fragment. -/
def sourceParts (source : String) : Url.Parts :=
  splitTail true (cleanEnd source.toList)

/-- What a URL makes of the path to a source. -/
def sourceUrl (base : Url) (source : String) : Url :=
  { base with
    path := .segments (resolveSegments false (base.folder ++ readFolder)
      (splitParts (isSeparator true) (sourceParts source).main))
    query := (sourceParts source).query
    fragment := (sourceParts source).fragment }

/-- The path in front of the name of a source. -/
def readPrefix : List Char :=
  ['a', 'p', 'i', '/', 'v', '1', '/', 'r', 'e', 'a', 'd', '/']

/-- Whatever stands behind it, the path in front of the name stays the folder of the reads. -/
theorem pathSegments_readPrefix {scheme : List Char} (special : isSpecialScheme scheme = true)
    (web : isFileScheme scheme = false) (done : List (List Char)) (cs : List Char) :
    pathSegments scheme done (readPrefix ++ cs) =
      resolveSegments false (done ++ readFolder) (splitParts (isSeparator true) cs) := by
  have apart : ∀ segment ∈ readFolder, ∀ c ∈ segment, isSeparator true c = false :=
    fun segment held c member => (isPlain_readFolder segment held c member).noSeparator true
  have parts : splitParts (isSeparator true) (readPrefix ++ cs) = readFolder ++ splitParts (isSeparator true) cs := by
    have cut : readPrefix ++ cs =
        ['a', 'p', 'i'] ++ '/' :: (['v', '1'] ++ '/' :: (['r', 'e', 'a', 'd'] ++ '/' :: cs)) := rfl
    rw [cut, splitParts_append_cons rfl (apart _ (by decide)), splitParts_append_cons rfl (apart _ (by decide)),
      splitParts_append_cons rfl (apart _ (by decide))]
    rfl
  have first : readPrefix ++ cs = 'a' :: (readPrefix.tail ++ cs) := rfl
  have begins : isSeparator true 'a' = false := rfl
  rw [← resolveSegments_plain_append done isPlain_readFolder, ← parts, first, pathSegments]
  simp only [special, web, begins, Bool.false_eq_true, if_false]

theorem resolve_source {base : Url} (http : base.isHttp = true) (hierarchical : base.path.isHierarchical = true)
    (source : String) : base.resolve ("api/v1/read/" ++ source) = .ok (sourceUrl base source) := by
  obtain ⟨special, web⟩ := isSpecialScheme_of_isHttp http
  have front : "api/v1/read/".toList = readPrefix := by decide +kernel
  have spelt : ("api/v1/read/" ++ source).toList = readPrefix ++ source.toList := by rw [String.toList_append, front]
  have printable : readPrefix.all (0x20 < ·.toNat) = true := by decide
  have cleaned : clean ("api/v1/read/" ++ source) = readPrefix ++ cleanEnd source.toList :=
    clean_append spelt fun c member => of_decide_eq_true (List.all_eq_true.mp printable c member)
  have tail : splitTail true (readPrefix ++ cleanEnd source.toList) =
      { sourceParts source with main := readPrefix ++ (sourceParts source).main } :=
    splitTail_append (by decide) (by decide) true _
  rw [resolve]
  cases held : base.path with
  | bare text => simp [held, Path.isHierarchical] at hierarchical
  | segments done =>
    simp only [isSpecial, special, cleaned, tail, pathSegments_readPrefix special web, sourceUrl, folder, held]

/-- Where a read of a source is sent. -/
def requestedUrl (base : Url) (source : String) (start : Instant) (o : ReadOptions) : Url :=
  (sourceUrl base source).addParameters (readParameters start o)

theorem query_requestedUrl {base : Url} {source : String} (noQuery : (sourceParts source).query = none)
    (start : Instant) (o : ReadOptions) :
    (requestedUrl base source start o).query = some (readParameters start o).encode.toList := by
  have some : readParameters start o = ("start_time", nanosText start) :: (readParameters start o).tail := rfl
  have full := Catalog.encode_ne_nil ("start_time", nanosText start) (readParameters start o).tail
  rw [← some] at full
  simp only [requestedUrl, addParameters, sourceUrl, noQuery, if_neg full]

/-- Just the names that stand alone are asked for. -/
theorem isReadOf_requestedUrl_iff {base : Url} {source : String} {start : Instant} {o : ReadOptions} :
    IsReadOf base source start o (requestedUrl base source start o) ↔ StandsAlone source.toList := by
  have path : (requestedUrl base source start o).path = .segments (resolveSegments false (base.folder ++ readFolder)
    (splitParts (isSeparator true) (sourceParts source).main)) := rfl
  constructor
  · rintro ⟨segment, same, told, _⟩
    obtain ⟨last, isLast⟩ := Option.ne_none_iff_exists'.mp
      (mt List.getLast?_eq_none_iff.mp (splitParts_ne_nil (isSeparator true) (sourceParts source).main))
    have ends := congrArg List.getLast? (Path.segments.inj (path.symm.trans same))
    rw [getLast?_resolveSegments _ isLast, List.getLast?_append, List.getLast?_append] at ends
    cases Option.some.inj ends
    exact standsAlone_of_last isLast (ofUtf8?_eq_some_iff.mp told)
  · intro standsAlone
    obtain ⟨parts, whole, noDots⟩ := standsAlone.parts
    have main : sourceParts source = ⟨source.toList, none, none⟩ := parts
    refine ⟨percentEncode inPathSet source.toList, ?_, ?_, query_requestedUrl (by rw [main]) start o⟩
    · rw [path, main, whole, ← List.append_assoc]
      simp only [resolveSegments, noDots, settleSegment, Bool.false_and, Bool.false_eq_true, if_false]
    · rw [percentDecode_percentEncode sparesEscapes_inPathSet, ofUtf8?_eq_some_iff]
      exact percentDecode_eq_iff.mpr standsAlone.unescaped

/-- Reads of two sources have two paths. -/
theorem IsReadOf.source_eq {base u v : Url} {source other : String} {start start' : Instant} {o o' : ReadOptions}
    (one : IsReadOf base source start o u) (two : IsReadOf base other start' o' v) (same : u.path = v.path) :
    source = other := by
  obtain ⟨segment, path, told, _⟩ := one
  obtain ⟨segment', path', told', _⟩ := two
  rw [path, path'] at same
  cases List.append_cancel_left (List.append_cancel_left (Path.segments.inj same))
  exact Option.some.inj (told.symm.trans told')

/-- What a read of a source asks for, whatever the source is called. -/
structure Asks (api : Api) (source : String) (start : Instant) (o : ReadOptions) (u : Url) : Prop where
  /-- Whatever the reply, there is one request. -/
  sent : ∀ w, ((read api source start o).run w).2.sent = w.sent ++ [api.request u]
  host : u.scheme = api.base.scheme ∧ u.authority = api.base.authority
  /-- The request is for the source just if the name stands alone. -/
  exact : IsReadOf api.base source start o u ↔ StandsAlone source.toList
  /-- No read of another source has the same path then. -/
  apart : StandsAlone source.toList → ∀ other start' o' v, IsReadOf api.base other start' o' v → v.path = u.path →
    other = source

theorem read_asks {api : Api} (reachable : api.Reachable) (source : String) (start : Instant) (o : ReadOptions) :
    ∃ u, Asks api source start o u := by
  have sends : api.Sends (requestedUrl api.base source start o) := ⟨reachable.http, reachable.header⟩
  have fetches : read api source start o = api.fetch page (requestedUrl api.base source start o) := by
    rw [read, Api.get, resolve_source reachable.http reachable.hierarchical]
    rfl
  refine ⟨requestedUrl api.base source start o, ?_, ⟨rfl, rfl⟩, isReadOf_requestedUrl_iff, ?_⟩
  · rw [fetches]
    exact Api.sent_fetch sends page
  · intro standsAlone other start' o' v isRead same
    exact isRead.source_eq (isReadOf_requestedUrl_iff.mpr standsAlone) same

/-! A name with a blank and a percent sign, and one that climbs out of the folder of the reads. -/
namespace OddNames

def store : Api :=
  Api.new ⟨"http".toList, some ⟨[], [], .name ['a'], none⟩, .segments [[]], none, none⟩ "t"

def options : ReadOptions :=
  ⟨none, false, [], none, none⟩

end OddNames

open OddNames

theorem read_asks_percent :
    store.Reachable ∧ StandsAlone "50% é".toList ∧ ∃ u,
      IsReadOf store.base "50% é" .epoch options u ∧
      ((read store "50% é" .epoch options).run (.new [])).2.sent = [store.request u] ∧
      ((read store "50% é" .epoch options).run (.new [])).2.sent.map (·.url.text) =
        ["http://a/api/v1/read/50%%20%C3%A9?start_time=0"] := by
  have reachable : store.Reachable := by decide +kernel
  have spelt : "50% é".toList = ['5', '0', '%', ' ', 'é'] := by decide +kernel
  have standsAlone : StandsAlone "50% é".toList := by
    rw [spelt]
    exact ⟨by simp, by simp, percentDecode_eq_iff.mp (by decide +kernel), by decide⟩
  obtain ⟨u, asks⟩ := read_asks reachable "50% é" .epoch options
  exact ⟨reachable, standsAlone, u, asks.exact.mpr standsAlone, asks.sent (.new []), by decide +kernel⟩

/-- Not the envelopes of a source are asked for here, but the answer to a query. -/
theorem read_asks_climbing :
    store.Reachable ∧ store.base.path = .segments [[]] ∧ "../query" ≠ "" ∧ ∃ u,
      ((read store "../query" .epoch options).run (.new [])).2.sent = [store.request u] ∧
      u.text = "http://a/api/v1/query?start_time=0" ∧ ¬ IsReadOf store.base "../query" .epoch options u := by
  refine ⟨by decide +kernel, rfl, by decide, requestedUrl store.base "../query" .epoch options, by decide +kernel,
    by decide +kernel, ?_⟩
  rintro ⟨segment, path, _⟩
  have climbed : (requestedUrl store.base "../query" .epoch options).path =
      .segments [['a', 'p', 'i'], ['v', '1'], "query".toList] := by
    decide +kernel
  have short := congrArg List.length (Path.segments.inj (climbed.symm.trans path))
  rw [List.length_append, List.length_append, List.length_singleton] at short
  exact absurd short (by decide)

end CpuUsage.MetricsStore
