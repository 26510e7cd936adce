import CpuUsage.Failure
import CpuUsage.Url.Parse

/-! Where the metrics store of a platform is, given the address of its API: beside it, under a name of its own. -/
namespace CpuUsage.Url

/-- Puts another host in place, read by the rules of the scheme. -/
def withHost? (u : Url) (text : List Char) : Option Url := do
  let authority ← u.authority
  let host ← (if u.isSpecial then Host.parseDomain text else Host.parseName text).toOption
  return { u with authority := some { authority with host } }

/-- Leaves the address of the host itself: no path and no query. -/
def withoutPath (u : Url) : Url :=
  { u with path := .segments (if u.isSpecial then [[]] else []), query := none }

/-- The domain behind the first label of a host name. -/
def parentDomain? (host : List Char) : Option (List Char) :=
  match splitFirst '.' host with
  | (_, some (c :: rest)) => some (c :: rest)
  | _ => none

/-- The first label of the API host replaced by the name of the metrics store. -/
def metricsUrl? (api : Url) : Option Url := do
  let authority ← api.authority
  let domain ← parentDomain? authority.host.text
  let u ← api.withHost? ("log-cache.".toList ++ domain)
  return u.withoutPath

/-- The address of the metrics store, or the complaint that none can be told. -/
def deriveMetricsUrl (api : Url) : Except Failure Url :=
  match metricsUrl? api with
  | some u => .ok u
  | none => .error (.settings (.underivableMetricsUrl api.text))

end CpuUsage.Url
