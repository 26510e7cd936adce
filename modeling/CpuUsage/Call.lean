import CpuUsage.Metrics
import CpuUsage.Session
import CpuUsage.Usage.Basic

/-! The calls that the reports make on the metrics store and the application catalog, and the answer that each is
for. Whoever takes the calls keeps its own state. -/
namespace CpuUsage

inductive Call where
  /-- A query at the present time. -/
  | instant (query : String)
  /-- A query over a window, evaluated once every step. -/
  | range (query : String) (start stop : Instant) (stepNanos : Nat)
  /-- Raw envelopes of a source since a time. -/
  | read (sourceId : String) (start : Instant) (options : ReadOptions)
  | org
  | space
  | username
  | spaces
  /-- An application of the current space; the answer carries no instances. -/
  | application (name : String)
  deriving DecidableEq

def Call.Answer : Call → Type
  | .instant _ => List Sample
  | .range .. => List Series
  | .read .. => List Envelope
  | .org | .space | .username => String
  | .spaces => List Space
  | .application _ => Application

abbrev Collaborators (σ : Type) : Type :=
  (c : Call) → Session σ c.Answer

/-- A way to find the usage of an application, given its guid and instances. -/
abbrev Fetcher (σ : Type) : Type :=
  String → Instances → Session σ Usage

end CpuUsage
