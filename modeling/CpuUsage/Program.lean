import CpuUsage.CommandLine.Reader
import CpuUsage.Platform
import CpuUsage.Report.Application
import CpuUsage.Report.Fleet
import CpuUsage.Settings.File
import CpuUsage.Usage.Current
import CpuUsage.Usage.Historical

/-! The program as a function: arguments, files, environment, the present time and the replies of the servers go in;
text, an exit code and the requests come out. -/
namespace CpuUsage

/-- The interfaces that the settings name. What the user has to set is asked for in this order. That no client can be
made to reach them is left out. -/
def Platform.ofSettings (s : Settings) : Except Failure Platform := do
  let token ← s.token
  let metrics ← s.metrics
  let api ← s.api
  let org ← s.targetOrg
  return ⟨.new metrics token, ⟨.new api token, org, s.space.getD "", s.user⟩⟩

def showApplication (s : Settings) (now : Instant) (format : OutputFormat) (coloured : Bool) (name : String) :
    Session Wire String := do
  let _ ← Session.ofExcept s.targetSpace
  let start ← Session.ofExcept (s.historyStart now)
  let p ← Session.ofExcept (Platform.ofSettings s)
  let historical := Usage.historical p.ask ⟨start, now⟩
  let current := Usage.current p.ask (Usage.cumulative p.ask)
  let report ← ApplicationReport.create p.ask ⟨s.readLimit, s.readMaxPages⟩ historical current name
  return report.text format coloured

def showFleet (s : Settings) (format : OutputFormat) (coloured : Bool) : Session Wire String := do
  let p ← Session.ofExcept (Platform.ofSettings s)
  let report ← FleetReport.create p.ask (Usage.cumulative p.ask)
  return report.text format coloured

def Command.show (s : Settings) (now : Instant) (format : OutputFormat) (coloured : Bool) :
    Command → Session Wire String
  | .application name => showApplication s now format coloured name
  | .fleet => showFleet s format coloured

structure Surroundings where
  /-- The texts of the files that can be read. -/
  files : String → Option String
  /-- The ends of settings files with their formats. They are tried in this order, which may be another in every run. -/
  formats : List (String × FileFormat)
  /-- The path of the settings file that is read if no other is named; there is none without a home directory. -/
  settingsPath : Option String
  environment : List (String × String)
  coloured : Bool
  now : Instant
  /-- What the libraries below say of the causes of a failure. -/
  words : Failure → List String

/-- What a run leaves behind. `errors` are the texts that tell of a failure, each on lines of its own; lines of the log,
which may stand among them, are left out. -/
structure Outcome where
  exitCode : UInt8
  output : String
  errors : List String
  deriving DecidableEq

def featureHint : String :=
  "Your Cloud Foundry may not have enabled the CPU Entitlements feature. Please consult your operator."

/-- A failure, with a hint where the platform may be to blame. -/
def Outcome.ofFailure (coloured : Bool) (words : Failure → List String) (e : Failure) : Outcome :=
  ⟨1, "", errorLine coloured (e.fullMessage words) ::
    if e.mayBePlatform then [errorLine coloured featureHint] else []⟩

def versionText : String :=
  "cpu-entitlement 0.1.0"

def helpLines : List String :=
  ["Report CPU usage against entitlement for Cloud Foundry apps",
    "",
    "Usage: cpu-entitlement [OPTIONS] <COMMAND>",
    "",
    "Commands:",
    "  app                         Show CPU usage against entitlement for each instance of an app [aliases: cpu]",
    "  over-entitlement-instances  List apps of the org with instances over their CPU entitlement [aliases: oei]",
    "  help                        Print this message or the help of the given subcommand(s)",
    "",
    "Options:",
    "      --api-url <API_URL>              Cloud Controller URL (can also be set via CPU_ENTITLEMENT_API_URL)",
    "      --log-cache-url <LOG_CACHE_URL>  Log-cache URL (derived from the API URL if not specified)",
    "      --org <ORG>                      Targeted organization",
    "      --space <SPACE>                  Targeted space",
    "      --skip-ssl-validation            Accept invalid TLS certificates",
    "      --config <CONFIG>                Config file (defaults to ~/.config/cpu-entitlement/config.toml)",
    "  -f, --format <FORMAT>                Output format [default: table] [possible values: table, json]",
    "      --debug                          Enable debug logging",
    "      --log-format <LOG_FORMAT>        Log line format [default: text] [possible values: text, json]",
    "  -h, --help                           Print help",
    "  -V, --version                        Print version"]

def UsageError.message : UsageError → String
  | .helpAsked | .versionAsked => ""
  | .nothingAsked | .missingCommand => "error: a command is missing"
  | .invalidCommand => "error: there is no such command"
  | .unknownArgument => "error: unexpected argument"
  | .missingArgument => "error: the name of the application is missing"
  | .invalidValue => "error: missing or invalid value of an option"
  | .conflict => "error: an option is given twice"
  | .surplusValue => "error: a value is given to an option that takes none"

def Outcome.ofUsageError (e : UsageError) : Outcome :=
  match e with
  | .helpAsked => ⟨e.exitCode, joinLines helpLines, []⟩
  | .versionAsked => ⟨e.exitCode, joinLines [versionText], []⟩
  | _ => ⟨e.exitCode, "", [e.message, "", "For more information, try '--help'."]⟩

namespace CommandLine

def settingsPath (w : Surroundings) (c : CommandLine) : Option String :=
  c.configFile.or w.settingsPath

def settings (w : Surroundings) (c : CommandLine) : Except Failure Settings :=
  Settings.load ((c.settingsPath w).bind (findSettings w.formats w.files)) w.environment c.overrides

def perform (w : Surroundings) (c : CommandLine) : Session Wire String := do
  let s ← Session.ofExcept (c.settings w)
  c.command.show s w.now c.format w.coloured

end CommandLine

def run (w : Surroundings) (args : List String) (replies : List Reply) : Outcome × List Request :=
  match CommandLine.read args with
  | .error e => (.ofUsageError e, [])
  | .ok c =>
    match (c.perform w).run (.new replies) with
    | (.ok text, wire) => (⟨0, text, []⟩, wire.sent)
    | (.error e, wire) => (.ofFailure w.coloured w.words e, wire.sent)

end CpuUsage
