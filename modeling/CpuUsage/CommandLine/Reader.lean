import CpuUsage.CommandLine.Option
import CpuUsage.Text.Split

/-! Reading the command line: options, a command, its argument and again options. -/
namespace CpuUsage

inductive Word where
  /-- Two hyphens; no options follow. -/
  | stop
  | long (name : String) (attached : Option String)
  | short (letters : List Char)
  | plain (text : String)
  deriving DecidableEq

def Word.of (arg : String) : Word :=
  match arg.toList with
  | ['-', '-'] => .stop
  | '-' :: '-' :: rest =>
    let (name, attached) := splitFirst '=' rest
    .long (String.ofList name) (attached.map String.ofList)
  | '-' :: c :: rest => .short (c :: rest)
  | _ => .plain arg

inductive CommandName where
  | application
  | fleet
  | help
  deriving DecidableEq

def CommandName.of? : String → Option CommandName
  | "app" | "cpu" => some .application
  | "over-entitlement-instances" | "oei" => some .fleet
  | "help" => some .help
  | _ => none

namespace CommandLine

/-- The arguments after a command: its options and, if it takes one, its argument. -/
def readArguments (takesName : Bool) : Bool → Given → Option String → List String →
    Except UsageError (Given × Option String)
  | _, g, name, [] => do
    let g ← g.settle
    if takesName ∧ name = none then .error .missingArgument else return (g, name)
  | stopped, g, name, arg :: rest =>
    let word := if stopped then .plain arg else Word.of arg
    match word with
    | .stop => readArguments takesName true g name rest
    | .long option attached => do
      let g ← g.addLong false option attached
      readArguments takesName stopped g name rest
    | .short letters => do
      let g ← g.addShort false letters
      readArguments takesName stopped g name rest
    | .plain text =>
      match g.waiting?, stopped with
      | some o, false => readArguments takesName stopped { g with pending := some (o, some text) } name rest
      | _, _ =>
        if takesName ∧ name = none then do
          let g ← g.settle
          readArguments takesName stopped g (some text) rest
        else .error .unknownArgument

/-- Help on a command, which must exist. -/
def readHelp : List String → UsageError
  | [] => .helpAsked
  | [name] => if (CommandName.of? name).isSome then .helpAsked else .invalidCommand
  | _ => .invalidCommand

structure Arguments where
  before : Given
  after : Given
  command : Command
  deriving DecidableEq

/-- A command with what follows it; the last option before it is taken after all else. -/
def readCommand (before : Given) (name : CommandName) (rest : List String) : Except UsageError Arguments :=
  match name with
  | .help => .error (readHelp rest)
  | .application => do
    let (after, argument) ← readArguments true false .none none rest
    let before ← before.settle
    return ⟨before, after, .application (argument.getD "")⟩
  | .fleet => do
    let (after, _) ← readArguments false false .none none rest
    let before ← before.settle
    return ⟨before, after, .fleet⟩

def readOptions : Bool → Given → List String → Except UsageError Arguments
  | _, g, [] => do
    let g ← g.settle
    .error (if g.isEmpty then .nothingAsked else .missingCommand)
  | true, _, arg :: _ => .error (if (CommandName.of? arg).isSome then .unknownArgument else .invalidCommand)
  | false, g, arg :: rest =>
    match g.waiting?, CommandName.of? arg with
    | none, some name => readCommand g name rest
    | waiting, _ =>
      match Word.of arg with
      | .stop => readOptions true g rest
      | .long option attached => do
        let g ← g.addLong true option attached
        readOptions false g rest
      | .short letters => do
        let g ← g.addShort true letters
        readOptions false g rest
      | .plain text =>
        match waiting with
        | some o => readOptions false { g with pending := some (o, some text) } rest
        | none => .error .invalidCommand

/-- Options after the command count before those in front of it. -/
def ofArguments (a : Arguments) : CommandLine :=
  let value (o : ValueOption) : Option String := (a.after.get? o).or (a.before.get? o)
  let flag (o : FlagOption) : Bool := o ∈ a.after.flags || o ∈ a.before.flags
  { command := a.command
    overrides := ⟨value .apiUrl, value .metricsUrl, value .org, value .space, flag .skipTlsValidation⟩
    configFile := value .config
    format := ((value .format).bind OutputFormat.ofWord?).getD .table
    debug := flag .debug
    logFormat := ((value .logFormat).bind LogFormat.ofWord?).getD .text }

def read (args : List String) : Except UsageError CommandLine := do
  let a ← readOptions false .none args
  return ofArguments a

end CommandLine
end CpuUsage
