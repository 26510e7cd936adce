import CpuUsage.Proofs.Instant
import CpuUsage.Proofs.Text.Integer
import CpuUsage.Proofs.Url.Form
import CpuUsage.Proofs.Url.Plain

/-! Requests for raw envelopes. A request stands below the folder of the base and carries its options as a form. Decoded,
the form has one parameter for each option that is set, with times as exact counts of nanoseconds, and the options can be
read off them. -/
namespace CpuUsage

/-- A letter, a digit, a hyphen or an underscore. -/
def isGuidChar (c : Char) : Bool :=
  isLetterOrDigit c || c = '-' || c = '_'

theorem toNat_lt_of_isGuidChar {c : Char} (guid : isGuidChar c = true) : c.toNat < 128 := by
  have below : ∀ d : Char, c ≤ d → c.toNat ≤ d.toNat := fun d le => le
  simp only [isGuidChar, isLetterOrDigit, isDigit, Bool.or_eq_true, Bool.and_eq_true, decide_eq_true_eq] at guid
  rcases guid with (((⟨_, le⟩ | ⟨_, le⟩) | ⟨_, le⟩) | rfl) | rfl
  · exact Nat.lt_of_le_of_lt (below '9' le) (by decide)
  · exact Nat.lt_of_le_of_lt (below 'z' le) (by decide)
  · exact Nat.lt_of_le_of_lt (below 'Z' le) (by decide)
  · decide
  · decide

theorem isPlain_of_isGuidChar {c : Char} (guid : isGuidChar c = true) : Url.IsPlain c := by
  have all : ∀ n < 128, isGuidChar (Char.ofNat n) = true →
      0x20 < (Char.ofNat n).toNat ∧ Char.ofNat n ≠ '?' ∧ Char.ofNat n ≠ '#' ∧ asciiLower (Char.ofNat n) ≠ '.' ∧
        asciiLower (Char.ofNat n) ≠ '%' ∧ (∀ special, Url.isSeparator special (Char.ofNat n) = false) ∧
        inPathSet (Char.ofNat n) = false := by
    decide +kernel
  have facts := all c.toNat (toNat_lt_of_isGuidChar guid)
  rw [Char.ofNat_toNat] at facts
  obtain ⟨printable, noQuery, noFragment, noDot, noPercent, noSeparator, kept⟩ := facts guid
  exact ⟨printable, noQuery, noFragment, noDot, noPercent, noSeparator, kept⟩

theorem isPlain_of_all_isGuidChar {segments : List (List Char)} (guids : segments.all (List.all · isGuidChar) = true) :
    ∀ segment ∈ segments, ∀ c ∈ segment, Url.IsPlain c := by
  intro segment held c member
  exact isPlain_of_isGuidChar (List.all_eq_true.mp (List.all_eq_true.mp guids segment held) c member)

/-- Letters, digits, hyphens and underscores only, as the guids of a platform have them. -/
def IsGuid (text : String) : Prop :=
  text.toList.all isGuidChar = true

namespace MetricsStore

/-- The segments in front of the source. -/
def readFolder : List (List Char) :=
  [['a', 'p', 'i'], ['v', '1'], ['r', 'e', 'a', 'd']]

/-- Where the envelopes of a source are read, with the options as a form. -/
def readUrl (base : Url) (source : String) (start : Instant) (o : ReadOptions) : Url :=
  { base.withPath (base.folder ++ (readFolder ++ [source.toList])) with
    query := some (readParameters start o).encode.toList }

theorem isPlain_readFolder : ∀ segment ∈ readFolder, ∀ c ∈ segment, Url.IsPlain c :=
  isPlain_of_all_isGuidChar (by decide)

theorem resolve_read {base : Url} (http : base.isHttp = true) (hierarchical : base.path.isHierarchical = true)
    {source : String} (guid : IsGuid source) :
    base.resolve ("api/v1/read/" ++ source) = .ok (base.withPath (base.folder ++ (readFolder ++ [source.toList]))) := by
  have plain : ∀ segment ∈ readFolder ++ [source.toList], ∀ c ∈ segment, Url.IsPlain c := by
    intro segment held c member
    rcases List.mem_append.mp held with front | last
    · exact isPlain_readFolder segment front c member
    · cases List.mem_singleton.mp last
      exact isPlain_of_isGuidChar (List.all_eq_true.mp guid c member)
  have front : "api/v1/read/".toList = ['a', 'p', 'i', '/', 'v', '1', '/', 'r', 'e', 'a', 'd', '/'] := by decide +kernel
  exact Url.resolve_plain http hierarchical plain (by simp [List.intercalate, front])

section
variable {api : Api} (reachable : api.Reachable) {source : String} (guid : IsGuid source)
include reachable guid

theorem read_eq_fetch (start : Instant) (o : ReadOptions) :
    read api source start o = api.fetch page (readUrl api.base source start o) := by
  have some : readParameters start o = ("start_time", nanosText start) :: (readParameters start o).tail := rfl
  rw [read, Api.get, resolve_read reachable.http reachable.hierarchical guid]
  simp only
  rw [some, Catalog.addParameters_withPath, ← some]
  rfl

/-- Whatever the reply, a read sends one request. -/
theorem sent_read (start : Instant) (o : ReadOptions) (w : Wire) :
    ((read api source start o).run w).2.sent = w.sent ++ [api.request (readUrl api.base source start o)] := by
  have sends : api.Sends (readUrl api.base source start o) := ⟨reachable.http, reachable.header⟩
  rw [read_eq_fetch reachable guid]
  exact Api.sent_fetch sends page w

end

end MetricsStore

namespace Parameters

/-- One parameter of this name for each value. -/
def named (name : String) (values : List String) : Parameters :=
  values.map (name, ·)

/-- The values of a name in their order. -/
def values (ps : Parameters) (name : String) : List String :=
  (ps.filter (·.1 = name)).map (·.2)

@[simp] theorem values_append (ps qs : Parameters) (name : String) :
    values (ps ++ qs) name = ps.values name ++ qs.values name := by
  rw [values, List.filter_append, List.map_append, values, values]

@[simp] theorem values_named (name other : String) (vs : List String) :
    (named name vs).values other = if name = other then vs else [] := by
  by_cases same : name = other
  · simp [values, named, same, List.filter_map, Function.comp_def]
  · simp [values, named, same, List.filter_map, Function.comp_def]

end Parameters

def EnvelopeType.ofName? : String → Option EnvelopeType
  | "LOG" => some .log
  | "COUNTER" => some .counter
  | "GAUGE" => some .gauge
  | "TIMER" => some .timer
  | "EVENT" => some .event
  | _ => none

theorem EnvelopeType.mapM_ofName?_name (types : List EnvelopeType) : (types.map name).mapM ofName? = some types := by
  induction types with
  | nil => rfl
  | cons t types ih =>
    have first : ofName? t.name = some t := by cases t <;> rfl
    rw [List.map_cons, List.mapM_cons, first, ih]
    rfl

namespace MetricsStore

/-- The start, and then one parameter for each option that is set. -/
def exactParameters (start : Instant) (o : ReadOptions) : Parameters :=
  .named "start_time" [toString start.toNanos] ++
  .named "end_time" (o.stop.map fun stop => toString stop.toNanos).toList ++
  .named "descending" (if o.descending then ["true"] else []) ++
  .named "envelope_types" (o.types.map EnvelopeType.name) ++
  .named "name_filter" o.nameFilter.toList ++
  .named "limit" (o.limit.map fun n => toString n).toList

/-- The start and the options that parameters tell. -/
def optionsOf? (ps : Parameters) : Option (Instant × ReadOptions) := do
  let start ← (ps.values "start_time").head?.bind readNanos?
  let stop ← (ps.values "end_time").head?.mapM readNanos?
  let types ← (ps.values "envelope_types").mapM EnvelopeType.ofName?
  let limit ← (ps.values "limit").head?.mapM fun text => readNat? text.toList
  return (start, ⟨stop, ps.values "descending" = ["true"], types, (ps.values "name_filter").head?, limit⟩)

/-- The times that a read asks for are exact. -/
structure ExactTimes (start : Instant) (o : ReadOptions) : Prop where
  start : start.Exact
  stop : ∀ t ∈ o.stop, t.Exact

theorem nanosText_of_exact {t : Instant} (exact : t.Exact) : nanosText t = toString t.toNanos := by
  simp only [nanosText, exact.fits, if_true]

/-- Exact times are written as they are. -/
theorem readParameters_eq {start : Instant} {o : ReadOptions} (exact : ExactTimes start o) :
    readParameters start o = exactParameters start o := by
  obtain ⟨stop, descending, types, nameFilter, limit⟩ := o
  have stops : (stop.map fun t => ("end_time", nanosText t)).toList =
      Parameters.named "end_time" (stop.map fun t => toString t.toNanos).toList := by
    cases stop with
    | none => rfl
    | some t =>
      rw [Option.map_some, nanosText_of_exact (exact.stop t rfl)]
      rfl
  have descends : (if descending then [("descending", "true")] else []) =
      Parameters.named "descending" (if descending then ["true"] else []) := by
    cases descending <;> rfl
  have named : (types.map fun t => ("envelope_types", t.name)) =
      Parameters.named "envelope_types" (types.map EnvelopeType.name) := by
    rw [Parameters.named, List.map_map]
    rfl
  have filters : (nameFilter.map fun name => ("name_filter", name)).toList =
      Parameters.named "name_filter" nameFilter.toList := by
    cases nameFilter <;> rfl
  have limits : (limit.map fun n => ("limit", toString n)).toList =
      Parameters.named "limit" (limit.map fun n => toString n).toList := by
    cases limit <;> rfl
  rw [readParameters, exactParameters, nanosText_of_exact exact.start, stops, descends, named, filters, limits]
  rfl

/-- Each name has the values of its option and no others. -/
structure ValuesAre (ps : Parameters) (start : Instant) (o : ReadOptions) : Prop where
  start : ps.values "start_time" = [toString start.toNanos]
  stop : ps.values "end_time" = (o.stop.map fun stop => toString stop.toNanos).toList
  descending : ps.values "descending" = if o.descending then ["true"] else []
  types : ps.values "envelope_types" = o.types.map EnvelopeType.name
  nameFilter : ps.values "name_filter" = o.nameFilter.toList
  limit : ps.values "limit" = (o.limit.map fun n => toString n).toList

theorem valuesAre_exactParameters (start : Instant) (o : ReadOptions) : ValuesAre (exactParameters start o) start o := by
  constructor
  all_goals simp only [exactParameters, Parameters.values_append, Parameters.values_named, String.reduceEq, if_true,
    if_false, List.nil_append, List.append_nil]

theorem readNanos?_toNanos {t : Instant} (exact : t.Exact) : readNanos? (toString t.toNanos) = some t := by
  rw [readNanos?, (trimmed_toString _).trimBlanks_eq, readInt64?_toString exact.fits]
  exact exact.ofNanos?_toNanos

/-- The options are read off their parameters. -/
theorem optionsOf?_exactParameters {start : Instant} {o : ReadOptions} (exact : ExactTimes start o) :
    optionsOf? (exactParameters start o) = some (start, o) := by
  have values := valuesAre_exactParameters start o
  obtain ⟨stop, descending, types, nameFilter, limit⟩ := o
  have stops : (stop.map fun t => toString t.toNanos).mapM readNanos? = some stop := by
    cases stop with
    | none => rfl
    | some t =>
      change (readNanos? (toString t.toNanos)).map some = _
      rw [readNanos?_toNanos (exact.stop t rfl)]
      rfl
  have limits : (limit.map fun n : Nat => toString n).mapM (fun text => readNat? text.toList) = some limit := by
    cases limit with
    | none => rfl
    | some n =>
      change (readNat? (toString n).toList).map some = _
      rw [Nat.toString_eq_repr, Nat.toList_repr, readNat?_toDigits]
      rfl
  have descends : decide ((if descending then ["true"] else []) = ["true"]) = descending := by
    cases descending <;> simp
  simp only [optionsOf?, values.start, values.stop, values.descending, values.types, values.nameFilter, values.limit,
    Option.head?_toList, List.head?_cons, Option.bind_some, readNanos?_toNanos exact.start, stops, limits, descends,
    EnvelopeType.mapM_ofName?_name]
  rfl

/-- The form of a request has the parameters of its options and no others. -/
theorem decode?_readUrl (base : Url) (source : String) {start : Instant} {o : ReadOptions} (exact : ExactTimes start o) :
    (readUrl base source start o).query.bind Parameters.decode? = some (exactParameters start o) := by
  rw [readUrl, Option.bind_some, Parameters.decode?_encode, readParameters_eq exact]

/-- Other options make another form. -/
theorem eq_of_query_eq {base : Url} {source : String} {start start' : Instant} {o o' : ReadOptions}
    (exact : ExactTimes start o) (exact' : ExactTimes start' o')
    (same : (readUrl base source start o).query = (readUrl base source start' o').query) : start = start' ∧ o = o' := by
  have decoded := decode?_readUrl base source exact
  rw [same, decode?_readUrl base source exact'] at decoded
  have options := optionsOf?_exactParameters exact
  rw [← Option.some.inj decoded, optionsOf?_exactParameters exact'] at options
  cases options
  exact ⟨rfl, rfl⟩

end MetricsStore
end CpuUsage
