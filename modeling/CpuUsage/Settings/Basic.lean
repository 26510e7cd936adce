import CpuUsage.Instant
import CpuUsage.Text.Blank
import CpuUsage.Url.Metrics

/-! What the user sets, and what follows from it or is missing from it. -/
namespace CpuUsage

structure Settings where
  apiUrl : Option String
  /-- Follows from the API URL where it is not set. -/
  metricsUrl : Option String
  accessToken : Option String
  org : Option String
  space : Option String
  username : Option String
  skipTlsValidation : Bool
  requestTimeoutSeconds : Nat
  historyWindowDays : Int
  /-- How many envelopes a page has when processes are resolved, and how many pages are read. -/
  readLimit : Nat
  readMaxPages : Nat
  deriving DecidableEq

namespace Settings

def default : Settings where
  apiUrl := none
  metricsUrl := none
  accessToken := none
  org := none
  space := none
  username := none
  skipTlsValidation := false
  requestTimeoutSeconds := 30
  historyWindowDays := 31
  readLimit := 1000
  readMaxPages := 10

def required (missing : SettingsError) (value : Option α) : Except Failure α :=
  match value with
  | some a => .ok a
  | none => .error (.settings missing)

def api (s : Settings) : Except Failure Url := do
  let text ← required .missingApiUrl s.apiUrl
  match Url.parse text with
  | .ok u => .ok u
  | .error e => .error (.invalidApiUrl text e)

/-- The metrics store as set, or beside the API. -/
def metrics (s : Settings) : Except Failure Url :=
  match s.metricsUrl with
  | some text => match Url.parse text with
    | .ok u => .ok u
    | .error e => .error (.invalidMetricsUrl text e)
  | none => s.api >>= Url.deriveMetricsUrl

/-- A token of nothing but blanks is none. -/
def token (s : Settings) : Except Failure String :=
  required .missingAccessToken (s.accessToken.filter fun t => !t.toList.all isBlank)

def targetOrg (s : Settings) : Except Failure String :=
  required (.missingTarget .org) s.org

def targetSpace (s : Settings) : Except Failure String :=
  required (.missingTarget .space) s.space

def user (s : Settings) : String :=
  s.username.getD "unknown user"

/-- The longest time span in seconds: 64 bits of milliseconds. -/
def maxSpanSeconds : Int :=
  9223372036854775

def historySeconds (s : Settings) : Except Failure Int :=
  let seconds := s.historyWindowDays * 86400
  if s.historyWindowDays ≤ 0 ∨ maxSpanSeconds < seconds then
    .error (.settings (.invalidHistoryWindow s.historyWindowDays))
  else .ok seconds

/-- The start of the history window that ends at `stop`; it must be within the calendar. -/
def historyStart (s : Settings) (stop : Instant) : Except Failure Instant := do
  let seconds ← s.historySeconds
  required (.invalidHistoryWindow s.historyWindowDays) (stop.minusSeconds? seconds)

end Settings
end CpuUsage
