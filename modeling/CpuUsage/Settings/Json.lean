import CpuUsage.Json.Decode
import CpuUsage.Settings.Basic

/-! Settings as a document. -/
namespace CpuUsage.Settings
open Decoder

def fieldNames : List String :=
  ["api_url", "log_cache_url", "access_token", "org", "space", "username", "skip_ssl_validation",
    "request_timeout_secs", "history_window_days", "read_limit", "read_max_pages"]

def decode : Decoder Settings := fun doc => do
  let [api, metrics, token, org, space, username, skip, timeout, days, limit, pages] ← fields fieldNames doc | none
  return {
    apiUrl := ← optional string api
    metricsUrl := ← optional string metrics
    accessToken := ← optional string token
    org := ← optional string org
    space := ← optional string space
    username := ← optional string username
    skipTlsValidation := ← withDefault default.skipTlsValidation bool skip
    requestTimeoutSeconds := ← withDefault default.requestTimeoutSeconds (natural uint64Bound) timeout
    historyWindowDays := ← withDefault default.historyWindowDays int64 days
    readLimit := ← withDefault default.readLimit (natural uint64Bound) limit
    readMaxPages := ← withDefault default.readMaxPages (natural uint64Bound) pages }

end CpuUsage.Settings
