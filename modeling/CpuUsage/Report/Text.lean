import CpuUsage.Json.Writer
import CpuUsage.Report.Json
import CpuUsage.Style
import CpuUsage.Table
import CpuUsage.Usage.Spike

/-! Reports as they are shown: a table with advice below it, or a document. -/
namespace CpuUsage

inductive OutputFormat where
  | table
  | json
  deriving DecidableEq

/-- A ratio in percent, with two decimal places. -/
def usageText (ratio : Binary64) : String :=
  String.ofList (ratio.mul (.ofNat 100)).hundredths ++ "%"

inductive UsageLevel where
  | normal
  | near
  | over
  deriving DecidableEq

namespace UsageLevel

/-- Usage above this is near the entitlement: 95 percent. -/
def nearEntitlement : Binary64 :=
  .ofRatio false 95 100

def of (ratio : Binary64) : UsageLevel :=
  if entitlement < ratio then .over
  else if nearEntitlement < ratio then .near
  else .normal

def paint (coloured : Bool) (level : UsageLevel) (text : String) : String :=
  match level with
  | .over => Style.red.paint coloured text
  | .near => Style.yellow.paint coloured text
  | .normal => text

end UsageLevel

def infoLine (coloured : Bool) (message : String) : String :=
  Style.boldBlue.paint coloured "ℹ" ++ " " ++ message

def tipLine (coloured : Bool) (message : String) : String :=
  Style.boldCyan.paint coloured "TIP:" ++ " " ++ Style.cyan.paint coloured message

def warningLine (coloured : Bool) (message : String) : String :=
  Style.boldYellow.paint coloured "WARNING:" ++ " " ++ Style.yellow.paint coloured message

def errorLine (coloured : Bool) (message : String) : String :=
  Style.boldRed.paint coloured "✗" ++ " " ++ message

def noteLine (coloured : Bool) : String :=
  infoLine coloured "Note: This feature is experimental."

def joinLines (lines : List String) : String :=
  String.join (lines.map (· ++ "\n"))

namespace InstanceReport

def level (r : InstanceReport) : UsageLevel :=
  .of r.historical.value

def row (coloured : Bool) (r : InstanceReport) : List String :=
  ["#" ++ toString r.slot.toNat, usageText r.historical.value, usageText r.current.value].map
    (r.level.paint coloured)

/-- When an instance was over its entitlement that is not over it now. -/
def spikeWarning? (r : InstanceReport) : Option String :=
  if r.historical.value ≤ entitlement then
    r.historical.lastSpike.map fun spike =>
      "Instance #" ++ toString r.slot.toNat ++ " was over entitlement " ++
        if spike.isInstant then "at " ++ spike.start.plainText
        else "from " ++ spike.start.plainText ++ " to " ++ spike.stop.plainText
  else none

end InstanceReport

namespace ApplicationReport

/-- Advice for the closest level that an instance has reached. -/
def tip? (r : ApplicationReport) : Option String :=
  let advice (status : String) : String :=
    "Some instances are " ++ status ++ " their CPU entitlement. Consider scaling your memory or instances."
  if r.instances.any (·.level = .over) then some (advice "over")
  else if r.instances.any (·.level = .near) then some (advice "near")
  else none

def headerLine (coloured : Bool) (r : ApplicationReport) : String :=
  let name := Style.boldCyan.paint coloured
  "Showing CPU usage against entitlement for app " ++ name r.application ++ " in org " ++ name r.org ++ " / space " ++
    name r.space ++ " as " ++ name r.username ++ " ..."

def table (coloured : Bool) (r : ApplicationReport) : Table :=
  ⟨["", "avg usage", "curr usage"], r.instances.map (·.row coloured)⟩

def tableLines (coloured : Bool) (r : ApplicationReport) : List String :=
  [noteLine coloured, r.headerLine coloured, ""] ++
  if r.instances.isEmpty then
    [infoLine coloured ("There are no running instances of app " ++ r.application ++ ".")]
  else
    [(r.table coloured).text] ++ (r.tip?.map (tipLine coloured)).toList ++
      (r.instances.filterMap (·.spikeWarning?)).map (warningLine coloured)

def text (format : OutputFormat) (coloured : Bool) (r : ApplicationReport) : String :=
  match format with
  | .json => joinLines [r.toJson.pretty]
  | .table => joinLines (r.tableLines coloured)

end ApplicationReport

namespace FleetReport

def table (r : FleetReport) : Table :=
  ⟨["space", "app"], r.spaces.flatMap fun s => s.applications.map fun a => [s.space, a]⟩

def tableLines (coloured : Bool) (r : FleetReport) : List String :=
  let name := Style.boldCyan.paint coloured
  noteLine coloured ::
  if r.isEmpty then ["No apps over entitlement in org " ++ name r.org ++ "."]
  else ["Showing over-entitlement apps in org " ++ name r.org ++ " as " ++ name r.username ++ "...", "", r.table.text]

def text (format : OutputFormat) (coloured : Bool) (r : FleetReport) : String :=
  match format with
  | .json => joinLines [r.toJson.pretty]
  | .table => joinLines (r.tableLines coloured)

end FleetReport
end CpuUsage
