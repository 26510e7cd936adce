import CpuUsage.Url.Error

/-! What can go wrong, by cause, and the words for it. -/
namespace CpuUsage

inductive PlatformError where
  /-- Instances run, but nothing is known about their usage. -/
  | unsupportedDeployment (application : String)
  | applicationNotFound (name : String)
  | orgNotFound (name : String)
  | spaceNotFound (name : String)
  deriving DecidableEq

inductive Target where
  | org
  | space
  deriving DecidableEq

/-- What the user has to set before anything is asked. -/
inductive SettingsError where
  | missingApiUrl
  | missingAccessToken
  | missingTarget (target : Target)
  | underivableMetricsUrl (apiUrl : String)
  | invalidHistoryWindow (days : Int)
  deriving DecidableEq

inductive Failure where
  | platform (e : PlatformError)
  | settings (e : SettingsError)
  | unreadableSettings
  | unusableSettings
  | invalidApiUrl (text : String) (cause : Url.Error)
  | invalidMetricsUrl (text : String) (cause : Url.Error)
  | invalidPath (cause : Url.Error)
  | invalidLink (text : String) (cause : Url.Error)
  /-- No answer came, or no request could be made. -/
  | unanswered
  | refused (status : Nat) (body : String)
  | undecodable
  | queryFailed (reason : String)
  /-- A collaborator's own words. -/
  | reported (message : String)
  deriving DecidableEq

def PlatformError.message : PlatformError → String
  | .unsupportedDeployment application =>
    "Could not find any CPU data for app " ++ application ++
      ". Make sure that you are using cf-deployment version >= v5.5.0."
  | .applicationNotFound name => "App '" ++ name ++ "' not found"
  | .orgNotFound name => "Organization '" ++ name ++ "' not found"
  | .spaceNotFound name => "Space '" ++ name ++ "' not found"

def SettingsError.message : SettingsError → String
  | .missingApiUrl => "No API endpoint set. Use --api-url or CPU_ENTITLEMENT_API_URL"
  | .missingAccessToken => "No access token set. Use CPU_ENTITLEMENT_ACCESS_TOKEN or the config file"
  | .missingTarget .org => "No org targeted. Use --org or CPU_ENTITLEMENT_ORG"
  | .missingTarget .space => "No space targeted. Use --space or CPU_ENTITLEMENT_SPACE"
  | .underivableMetricsUrl apiUrl =>
    "Cannot derive the log-cache URL from '" ++ apiUrl ++ "'. Set log_cache_url explicitly"
  | .invalidHistoryWindow days =>
    "Invalid history window of " ++ toString days ++ " days. Set history_window_days to a positive number"

def reasonPhrase? : Nat → Option String
  | 100 => some "Continue"
  | 101 => some "Switching Protocols"
  | 102 => some "Processing"
  | 200 => some "OK"
  | 201 => some "Created"
  | 202 => some "Accepted"
  | 203 => some "Non Authoritative Information"
  | 204 => some "No Content"
  | 205 => some "Reset Content"
  | 206 => some "Partial Content"
  | 207 => some "Multi-Status"
  | 208 => some "Already Reported"
  | 226 => some "IM Used"
  | 300 => some "Multiple Choices"
  | 301 => some "Moved Permanently"
  | 302 => some "Found"
  | 303 => some "See Other"
  | 304 => some "Not Modified"
  | 305 => some "Use Proxy"
  | 307 => some "Temporary Redirect"
  | 308 => some "Permanent Redirect"
  | 400 => some "Bad Request"
  | 401 => some "Unauthorized"
  | 402 => some "Payment Required"
  | 403 => some "Forbidden"
  | 404 => some "Not Found"
  | 405 => some "Method Not Allowed"
  | 406 => some "Not Acceptable"
  | 407 => some "Proxy Authentication Required"
  | 408 => some "Request Timeout"
  | 409 => some "Conflict"
  | 410 => some "Gone"
  | 411 => some "Length Required"
  | 412 => some "Precondition Failed"
  | 413 => some "Payload Too Large"
  | 414 => some "URI Too Long"
  | 415 => some "Unsupported Media Type"
  | 416 => some "Range Not Satisfiable"
  | 417 => some "Expectation Failed"
  | 418 => some "I'm a teapot"
  | 421 => some "Misdirected Request"
  | 422 => some "Unprocessable Entity"
  | 423 => some "Locked"
  | 424 => some "Failed Dependency"
  | 426 => some "Upgrade Required"
  | 428 => some "Precondition Required"
  | 429 => some "Too Many Requests"
  | 431 => some "Request Header Fields Too Large"
  | 451 => some "Unavailable For Legal Reasons"
  | 500 => some "Internal Server Error"
  | 501 => some "Not Implemented"
  | 502 => some "Bad Gateway"
  | 503 => some "Service Unavailable"
  | 504 => some "Gateway Timeout"
  | 505 => some "HTTP Version Not Supported"
  | 506 => some "Variant Also Negotiates"
  | 507 => some "Insufficient Storage"
  | 508 => some "Loop Detected"
  | 510 => some "Not Extended"
  | 511 => some "Network Authentication Required"
  | _ => none

def statusText (status : Nat) : String :=
  toString status ++ " " ++ (reasonPhrase? status).getD "<unknown status code>"

namespace Failure

def message : Failure → String
  | .platform e => e.message
  | .settings e => e.message
  | .unreadableSettings => "Failed to load configuration"
  | .unusableSettings => "Invalid configuration"
  | .invalidApiUrl text _ => "Invalid API URL '" ++ text ++ "'"
  | .invalidMetricsUrl text _ => "Invalid log-cache URL '" ++ text ++ "'"
  | .invalidPath _ => "Invalid path"
  | .invalidLink text _ => "Invalid URL '" ++ text ++ "'"
  | .unanswered => "Failed to send request"
  | .refused status body => "API error (" ++ statusText status ++ "): " ++ body
  | .undecodable => "Failed to parse response"
  | .queryFailed reason => "Query failed: " ++ reason
  | .reported message => message

/-- What lies behind a failure, from the outside in. What is wrong with a URL is known; a connection, a document and a
file of settings fail for reasons that come from below, in these words. -/
def causes (words : Failure → List String) (e : Failure) : List String :=
  match e with
  | .invalidApiUrl _ cause | .invalidMetricsUrl _ cause | .invalidPath cause | .invalidLink _ cause => [cause.message]
  | .unanswered | .undecodable | .unreadableSettings | .unusableSettings => words e
  | .platform _ | .settings _ | .refused .. | .queryFailed _ | .reported _ => []

/-- The message and, behind it, the causes. -/
def fullMessage (words : Failure → List String) (e : Failure) : String :=
  ": ".intercalate (e.message :: e.causes words)

/-- Whether the platform may lack the metrics altogether: neither the user's settings nor the named application,
organization or space is to blame. -/
def mayBePlatform : Failure → Bool
  | .platform _ | .settings _ => false
  | _ => true

end Failure
end CpuUsage
