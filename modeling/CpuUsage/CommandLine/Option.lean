import CpuUsage.CommandLine.Basic

/-! The options that may stand before a command and after it, and what is known of them while arguments are read. The
value of an option is looked at when the next argument shows that it is complete. -/
namespace CpuUsage

inductive ValueOption where
  | apiUrl
  | metricsUrl
  | org
  | space
  | config
  | format
  | logFormat
  deriving DecidableEq

inductive FlagOption where
  | skipTlsValidation
  | debug
  | help
  | version
  deriving DecidableEq

inductive OptionName where
  | value (o : ValueOption)
  | flag (o : FlagOption)
  deriving DecidableEq

/-- Only the command line as a whole has a version. -/
def OptionName.ofLong? (top : Bool) (name : String) : Option OptionName :=
  match name with
  | "api-url" => some (.value .apiUrl)
  | "log-cache-url" => some (.value .metricsUrl)
  | "org" => some (.value .org)
  | "space" => some (.value .space)
  | "config" => some (.value .config)
  | "format" => some (.value .format)
  | "log-format" => some (.value .logFormat)
  | "skip-ssl-validation" => some (.flag .skipTlsValidation)
  | "debug" => some (.flag .debug)
  | "help" => some (.flag .help)
  | "version" => if top then some (.flag .version) else none
  | _ => none

def OptionName.ofShort? (top : Bool) (name : Char) : Option OptionName :=
  match name with
  | 'f' => some (.value .format)
  | 'h' => some (.flag .help)
  | 'V' => if top then some (.flag .version) else none
  | _ => none

def OutputFormat.ofWord? : String → Option OutputFormat
  | "table" => some .table
  | "json" => some .json
  | _ => none

def LogFormat.ofWord? : String → Option LogFormat
  | "text" => some .text
  | "json" => some .json
  | _ => none

def ValueOption.accepts (o : ValueOption) (v : String) : Bool :=
  match o with
  | .format => (OutputFormat.ofWord? v).isSome
  | .logFormat => (LogFormat.ofWord? v).isSome
  | .config => v ≠ ""
  | .apiUrl | .metricsUrl | .org | .space => true

/-- The options of one level, before a command or after it. -/
structure Given where
  values : List (ValueOption × String)
  flags : List FlagOption
  /-- The last option, whose value is still missing or not yet looked at. -/
  pending : Option (ValueOption × Option String)
  deriving DecidableEq

namespace Given

def none : Given :=
  ⟨[], [], .none⟩

def isEmpty (g : Given) : Bool :=
  g.values.isEmpty && g.flags.isEmpty

def get? (g : Given) (o : ValueOption) : Option String :=
  (g.values.find? (·.1 = o)).map (·.2)

def waiting? (g : Given) : Option ValueOption :=
  match g.pending with
  | some (o, .none) => some o
  | _ => .none

/-- Takes an option with its value, once only. -/
def take (g : Given) (o : ValueOption) (v : String) : Except UsageError Given :=
  if (g.get? o).isSome then .error .conflict
  else if o.accepts v then .ok { g with values := g.values ++ [(o, v)] }
  else .error .invalidValue

/-- Takes the last option; its value must have come. -/
def settle (g : Given) : Except UsageError Given :=
  match g.pending with
  | .none => .ok g
  | some (_, .none) => .error .invalidValue
  | some (o, some v) => { g with pending := .none }.take o v

/-- An option whose value is attached, or is the next argument. -/
def addValue (g : Given) (o : ValueOption) (attached : Option String) : Except UsageError Given := do
  let g ← g.settle
  match attached with
  | some v => g.take o v
  | .none => return { g with pending := some (o, .none) }

def addFlag (g : Given) (o : FlagOption) : Except UsageError Given := do
  let g ← g.settle
  match o with
  | .help => .error .helpAsked
  | .version => .error .versionAsked
  | .skipTlsValidation | .debug =>
    if o ∈ g.flags then .error .conflict else return { g with flags := g.flags ++ [o] }

def addLong (top : Bool) (g : Given) (name : String) (attached : Option String) : Except UsageError Given :=
  match OptionName.ofLong? top name with
  | .none => .error .unknownArgument
  | some (.value o) => g.addValue o attached
  | some (.flag o) => if attached.isSome then .error .surplusValue else g.addFlag o

/-- Options by their short names; the first that takes a value has all that follows, or the next argument. -/
def addShort (top : Bool) (g : Given) : List Char → Except UsageError Given
  | [] => .ok g
  | c :: rest =>
    match OptionName.ofShort? top c with
    | .none => .error .unknownArgument
    | some (.flag o) => do
      let g ← g.addFlag o
      g.addShort top rest
    | some (.value o) =>
      match rest with
      | [] => g.addValue o .none
      | '=' :: v => g.addValue o (some (String.ofList v))
      | v => g.addValue o (some (String.ofList v))

end Given
end CpuUsage
