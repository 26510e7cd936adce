import CpuUsage.Application.Basic
import CpuUsage.Instant
import CpuUsage.Text.Blank
import CpuUsage.Text.Number

/-! What the metrics store keeps and is asked for. Records stay close to their wire form, with texts for times and
ids, so that a malformed one can be passed over by itself. -/
namespace CpuUsage

abbrev Labels : Type :=
  SortedMap String String

/-- A value at a time in seconds since the epoch, possibly with a fraction. -/
structure Point where
  time : String
  value : Binary64
  deriving DecidableEq

structure Sample where
  labels : Labels
  point : Point
  deriving DecidableEq

structure Series where
  labels : Labels
  points : List Point
  deriving DecidableEq

inductive EnvelopeType where
  | log
  | counter
  | gauge
  | timer
  | event
  deriving DecidableEq

def EnvelopeType.name : EnvelopeType → String
  | .log => "LOG"
  | .counter => "COUNTER"
  | .gauge => "GAUGE"
  | .timer => "TIMER"
  | .event => "EVENT"

/-- A raw record of the store; its time is in nanoseconds since the epoch. -/
structure Envelope where
  sourceId : String
  instanceId : String
  timestamp : String
  tags : Labels
  metrics : SortedMap String Binary64
  deriving DecidableEq

structure ReadOptions where
  /-- Only envelopes before this time. -/
  stop : Option Instant
  descending : Bool
  types : List EnvelopeType
  nameFilter : Option String
  limit : Option Nat
  deriving DecidableEq

def usageMetric : String :=
  "absolute_usage"

def entitlementMetric : String :=
  "absolute_entitlement"

/-- The series of a metric that a source emits. -/
def selector (metric guid : String) : String :=
  metric ++ "\x7bsource_id=\"" ++ guid ++ "\"\x7d"

def ratioQuery (guid : String) : String :=
  selector usageMetric guid ++ " / " ++ selector entitlementMetric guid

/-- The usage over the last reporting interval. -/
def rateQuery (guid : String) : String :=
  "idelta(" ++ selector usageMetric guid ++ "[1m]) / idelta(" ++ selector entitlementMetric guid ++ "[1m])"

def readInstanceId? (text : String) : Option InstanceId :=
  (readUnsigned? uint32Bound text.toList).map UInt32.ofNat

def slotOf? (labels : Labels) : Option InstanceId :=
  (labels.get? "instance_id").bind readInstanceId?

/-- The process that a record is labelled with; an empty name is none. -/
def processOf? (labels : Labels) : Option String :=
  (labels.get? "process_instance_id").filter (· ≠ "")

/-- Seconds since the epoch, possibly with a fraction, which is rounded to nanoseconds within its second. -/
def readTime? (text : String) : Option Instant := do
  let x ← Binary64.read? (trimBlanks text.toList)
  if !x.isFinite then none
  else
    let nanos := (x.fractionAboveFloor.mul (.ofNat nanosPerSecond)).roundHalfUp
    Instant.ofParts? x.floor (min nanos (nanosPerSecond - 1))

def readNanos? (text : String) : Option Instant :=
  (readInt64? (trimBlanks text.toList)).bind Instant.ofNanos?

end CpuUsage
