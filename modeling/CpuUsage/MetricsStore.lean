import CpuUsage.Api
import CpuUsage.Json.Writer
import CpuUsage.Metrics

/-! The metrics store: queries, at the present time or over a window, and raw envelopes. Points and envelopes whose
texts make no sense are kept or left out one by one, while a document of another shape is an error. -/
namespace CpuUsage
open Decoder

namespace Json.Number

def text : Json.Number → List Char
  | .natural n => Nat.toDigits 10 n
  | .negative n => (if n < 0 then ['-'] else []) ++ Nat.toDigits 10 n.natAbs
  | .float x => (Numeral.ofBinary64 x).write

end Json.Number

namespace MetricsStore

/-- Containers may be nested 127 deep. -/
def maxDepth : Nat :=
  127

def anything (around : Nat) : Decoder Json :=
  fun doc => if doc.isMeaningful && doc.depth + around ≤ maxDepth then some doc else none

abbrev RawPoint : Type :=
  Json × String

def rawPoint (around : Nat) : Decoder RawPoint :=
  pair (anything around) string

def labels : Decoder Labels :=
  textMap string

/-- A time is a number or a text. -/
def timeText? : Json → Option String
  | .number n => n.value?.map fun v => String.ofList v.text
  | .string s => (Piece.meaning? s).map String.ofList
  | _ => none

def pointOf? (p : RawPoint) : Option Point := do
  let time ← timeText? p.1
  let value ← Binary64.read? p.2.toList
  if value.isFinite then return ⟨time, value⟩ else none

def rawSample : Decoder (Labels × RawPoint) := fun doc => do
  let [metric, value] ← fields ["metric", "value"] doc | none
  return (← withDefault .empty labels metric, ← required (rawPoint 5) value)

def rawSeries : Decoder (Labels × List RawPoint) := fun doc => do
  let [metric, values] ← fields ["metric", "values"] doc | none
  return (← withDefault .empty labels metric, ← withDefault [] (list (rawPoint 6)) values)

/-- The answer to a query: results, or the reason why there are none. -/
structure Outcome (α : Type) where
  status : String
  error : Option String
  results : List α

def results (item : Decoder α) : Decoder (List α) := fun doc => do
  let [result] ← fields ["result"] doc | none
  withDefault [] (list item) result

def outcome (item : Decoder α) : Decoder (Outcome α) := fun doc => do
  let [status, error, data] ← fields ["status", "error", "data"] doc | none
  let status ← required string status
  let error ← withDefault none (nullable string) error
  let found ← withDefault none (nullable (results item)) data
  return ⟨status, error, found.getD []⟩

def Outcome.toExcept (o : Outcome α) : Except Failure (List α) :=
  if o.status = "success" then .ok o.results
  else .error (.queryFailed (o.error.getD o.status))

def query (api : Api) (path : String) (ps : Parameters) (item : Decoder α) : Session Wire (List α) := do
  let answer ← api.get path ps (outcome item)
  Session.ofExcept answer.toExcept

def instant (api : Api) (text : String) : Session Wire (List Sample) := do
  let samples ← query api "api/v1/query" [("query", text)] rawSample
  return samples.filterMap fun s => (pointOf? s.2).map fun p => ⟨s.1, p⟩

/-- Whole seconds, or milliseconds where a second is broken. -/
def stepText (nanos : Nat) : String :=
  if nanos % nanosPerSecond / 1000000 = 0 then toString (nanos / nanosPerSecond) ++ "s"
  else toString (nanos / 1000000) ++ "ms"

def range (api : Api) (text : String) (start stop : Instant) (stepNanos : Nat) : Session Wire (List Series) := do
  let series ← query api "api/v1/query_range"
    [("query", text), ("start", toString start.seconds), ("end", toString stop.seconds),
      ("step", stepText stepNanos)] rawSeries
  return series.map fun s => ⟨s.1, s.2.filterMap pointOf?⟩

/-- Nanoseconds since the epoch; a time that does not fit 64 bits counts as the epoch. -/
def nanosText (t : Instant) : String :=
  let n := t.toNanos
  toString (if fitsInt64 n then n else 0)

def readParameters (start : Instant) (o : ReadOptions) : Parameters :=
  [("start_time", nanosText start)] ++
  (o.stop.map fun stop => ("end_time", nanosText stop)).toList ++
  (if o.descending then [("descending", "true")] else []) ++
  (o.types.map fun t => ("envelope_types", t.name)) ++
  (o.nameFilter.map fun name => ("name_filter", name)).toList ++
  (o.limit.map fun n => ("limit", toString n)).toList

/-- A time stamp is a 64-bit number or any text. -/
def timestamp : Decoder String
  | .string s => string (.string s)
  | doc => (int64 doc).map fun n => toString n

def metric : Decoder Binary64 := fun doc => do
  let [value] ← fields ["value"] doc | none
  withDefault .zero binary64 value

def metrics : Decoder (SortedMap String Binary64) := fun doc => do
  let [metrics] ← fields ["metrics"] doc | none
  withDefault .empty (textMap metric) metrics

def envelope : Decoder Envelope := fun doc => do
  let [source, slot, time, tags, gauge] ← fields ["source_id", "instance_id", "timestamp", "tags", "gauge"] doc
    | none
  let gauge ← withDefault none (nullable metrics) gauge
  return ⟨← withDefault "" string source, ← withDefault "" string slot, ← withDefault "0" timestamp time,
    ← withDefault .empty labels tags, gauge.getD .empty⟩

def batch : Decoder (List Envelope) := fun doc => do
  let [batch] ← fields ["batch"] doc | none
  withDefault [] (list envelope) batch

def page : Decoder (List Envelope) := fun doc => do
  let [envelopes] ← fields ["envelopes"] doc | none
  withDefault [] MetricsStore.batch envelopes

def read (api : Api) (sourceId : String) (start : Instant) (o : ReadOptions) : Session Wire (List Envelope) :=
  api.get ("api/v1/read/" ++ sourceId) (readParameters start o) page

end MetricsStore
end CpuUsage
