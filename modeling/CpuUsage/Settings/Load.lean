import CpuUsage.Settings.Basic
import CpuUsage.Settings.Layer

/-! Settings out of their layers. -/
namespace CpuUsage

inductive FileFormat where
  | toml
  | json
  /-- A format whose reader is not followed here. -/
  | foreign (read? : String → Option Layer)

structure Overrides where
  apiUrl : Option String
  metricsUrl : Option String
  org : Option String
  space : Option String
  skipTlsValidation : Bool
  deriving DecidableEq

namespace Overrides

def none : Overrides :=
  ⟨.none, .none, .none, .none, false⟩

def toLayer (o : Overrides) : Layer :=
  [("api_url", o.apiUrl), ("log_cache_url", o.metricsUrl), ("org", o.org), ("space", o.space)].filterMap
    (fun e => e.2.map fun s => (e.1, SettingValue.text s)) ++
  if o.skipTlsValidation then [("skip_ssl_validation", .bool true)] else []

end Overrides

/-- The settings in a file; a byte order mark does not count. -/
def FileFormat.read? (format : FileFormat) (text : String) : Option Layer :=
  let text := match text.toList with
    | '\ufeff' :: rest => String.ofList rest
    | _ => text
  match format with
  | .toml => Layer.ofToml? text
  | .json => Layer.ofJson? text
  | .foreign read? => read? text

namespace Settings

def optionalText (settled : Settled) (name : String) : Option (Option String) :=
  match settled.get? name with
  | none => some none
  | some v => v.toOptionalText?

def withDefault (read : SettingValue → Option α) (settled : Settled) (name : String) (fallback : α) : Option α :=
  match settled.get? name with
  | none => some fallback
  | some v => read v

def ofSettled? (settled : Settled) : Option Settings := do
  return {
    apiUrl := ← optionalText settled "api_url"
    metricsUrl := ← optionalText settled "log_cache_url"
    accessToken := ← optionalText settled "access_token"
    org := ← optionalText settled "org"
    space := ← optionalText settled "space"
    username := ← optionalText settled "username"
    skipTlsValidation := ← withDefault SettingValue.toBool? settled "skip_ssl_validation" default.skipTlsValidation
    requestTimeoutSeconds :=
      ← withDefault SettingValue.toNat64? settled "request_timeout_secs" default.requestTimeoutSeconds
    historyWindowDays := ← withDefault SettingValue.toInt64? settled "history_window_days" default.historyWindowDays
    readLimit := ← withDefault SettingValue.toNat64? settled "read_limit" default.readLimit
    readMaxPages := ← withDefault SettingValue.toNat64? settled "read_max_pages" default.readMaxPages }

/-- The settings in a file, if there is one, under those in the environment and on the command line. -/
def load (file : Option (FileFormat × String)) (environment : List (String × String)) (overrides : Overrides) :
    Except Failure Settings :=
  let fileLayer := match file with
    | none => some []
    | some (format, text) => format.read? text
  match fileLayer with
  | none => .error .unreadableSettings
  | some layer =>
    match ofSettled? (Layer.settle [layer, Layer.ofEnvironment environment, overrides.toLayer]) with
    | some s => .ok s
    | none => .error .unusableSettings

end Settings
end CpuUsage
