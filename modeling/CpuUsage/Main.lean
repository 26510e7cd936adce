import CpuUsage.Json.Writer
import CpuUsage.Program
import CpuUsage.Wire.Json
import Std.Time.DateTime.Timestamp

/-! The program on a terminal. Connections are left to whoever runs it: a request is written to standard output as one
line, and its reply is read from standard input as one line. What the program has to say comes last. -/
namespace CpuUsage

/-- Name and value of an entry of the environment. -/
def readVariable? (entry : List Char) : Option (String × String) :=
  match splitFirst '=' entry with
  | (name, some value) => some (String.ofList name, String.ofList value)
  | _ => none

/-- All variables of this process, where the system lists them. -/
def getVariables : IO (List (String × String)) :=
  tryCatch (do
    let bytes ← IO.FS.readBinFile "/proc/self/environ"
    let text := (String.fromUTF8? bytes).getD ""
    return (splitParts (· = '\x00') text.toList).filterMap readVariable?) fun _ => return []

def getFiles (paths : List String) : IO (List (String × String)) :=
  paths.filterMapM fun (path : String) =>
    tryCatch (do
      let text ← IO.FS.readFile path
      return some (path, text)) fun _ => return none

def getColoured : IO Bool := do
  let terminal ← (← IO.getStdout).isTty
  return Style.isWanted (← IO.getEnv "CLICOLOR_FORCE") (← IO.getEnv "NO_COLOR") (← IO.getEnv "CLICOLOR") terminal

def getNow : IO Instant := do
  let t ← Std.Time.Timestamp.now
  return (Instant.ofNanos? t.toNanosecondsSinceUnixEpoch.val).getD .epoch

/-- No format but TOML and JSON can be read here, and connections tell nothing of why they fail. -/
def getSurroundings (args : List String) : IO Surroundings := do
  let none : String → Option Layer := fun _ => .none
  let w : Surroundings := {
    files := fun _ => .none
    formats := fileFormats none none none none
    settingsPath := (← IO.getEnv "HOME").map (· ++ "/" ++ defaultSettingsPath)
    environment := ← getVariables
    coloured := ← getColoured
    now := ← getNow
    words := fun _ => [] }
  match CommandLine.read args with
  | .error _ => return w
  | .ok c =>
    let files ← getFiles ((c.settingsPath w).elim [] (candidatePaths w.formats))
    return { w with files := fun path => (files.find? (·.1 = path)).map (·.2) }

/-- Asks for the reply to a request; none, or one that cannot be read, is a dropped connection. -/
def getReply (r : Request) : IO Reply := do
  let stdout ← IO.getStdout
  stdout.putStrLn r.toJson.compact
  stdout.flush
  let line ← (← IO.getStdin).getLine
  return (decodeText? Reply.decode line).getD .dropped

/-- Runs the program on ever more replies, until it makes no request beyond them. -/
partial def converse (w : Surroundings) (args : List String) (replies : List Reply) : IO Outcome := do
  let (outcome, sent) := run w args replies
  match sent.drop replies.length with
  | [] => return outcome
  | next :: _ => converse w args (replies ++ [← getReply next])

end CpuUsage

def main (args : List String) : IO UInt32 := do
  let w ← CpuUsage.getSurroundings args
  let outcome ← CpuUsage.converse w args []
  IO.print outcome.output
  IO.eprint (CpuUsage.joinLines outcome.errors)
  return outcome.exitCode.toUInt32
