import CpuUsage.Report.Text
import CpuUsage.Settings.Load

/-! What the command line asks for. -/
namespace CpuUsage

inductive Command where
  | application (name : String)
  | fleet
  deriving DecidableEq

inductive LogFormat where
  | text
  | json
  deriving DecidableEq

structure CommandLine where
  command : Command
  overrides : Overrides
  configFile : Option String
  format : OutputFormat
  debug : Bool
  logFormat : LogFormat
  deriving DecidableEq

/-- Why a command line asks for nothing, or for help. -/
inductive UsageError where
  | helpAsked
  | versionAsked
  | nothingAsked
  | missingCommand
  | invalidCommand
  | unknownArgument
  | missingArgument
  | invalidValue
  | conflict
  /-- A value is attached to an option that takes none. -/
  | surplusValue
  deriving DecidableEq

def UsageError.exitCode : UsageError → UInt8
  | .helpAsked | .versionAsked => 0
  | _ => 2

end CpuUsage
