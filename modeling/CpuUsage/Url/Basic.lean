import CpuUsage.Url.Host

/-! URLs in their normal form: every part is already encoded. -/
namespace CpuUsage

namespace Url

inductive Path where
  | segments (parts : List (List Char))
  /-- A text that only its scheme can read. -/
  | bare (text : List Char)
  deriving DecidableEq

/-- An empty user name or password is the same as none. -/
structure Authority where
  username : List Char
  password : List Char
  host : Host
  port : Option Nat
  deriving DecidableEq

end Url

structure Url where
  scheme : List Char
  authority : Option Url.Authority
  path : Url.Path
  query : Option (List Char)
  fragment : Option (List Char)
  deriving DecidableEq

namespace Url

/-- The port that a web-like scheme implies. -/
def defaultPort? (scheme : List Char) : Option Nat :=
  match String.ofList scheme with
  | "http" | "ws" => some 80
  | "https" | "wss" => some 443
  | "ftp" => some 21
  | _ => none

def isFileScheme (scheme : List Char) : Bool :=
  scheme = ['f', 'i', 'l', 'e']

def isSpecialScheme (scheme : List Char) : Bool :=
  (defaultPort? scheme).isSome || isFileScheme scheme

def isSpecial (u : Url) : Bool :=
  isSpecialScheme u.scheme

namespace Path

def text : Path → List Char
  | .segments parts => parts.flatMap ('/' :: ·)
  | .bare text => text

end Path

namespace Authority

def hasCredentials (a : Authority) : Bool :=
  a.username ≠ [] || a.password ≠ []

def credentialsText (a : Authority) : List Char :=
  if a.hasCredentials then
    a.username ++ (if a.password = [] then [] else ':' :: a.password) ++ ['@']
  else []

def portText (a : Authority) : List Char :=
  match a.port with
  | some port => ':' :: Nat.toDigits 10 port
  | none => []

def text (a : Authority) : List Char :=
  a.credentialsText ++ a.host.text ++ a.portText

end Authority

/-- The authority after two slashes. Without one, a path whose first segment is empty gets a dot segment in front,
so that it does not read as an authority. -/
def authorityText (u : Url) : List Char :=
  match u.authority with
  | some a => '/' :: '/' :: a.text
  | none => match u.path with
    | .segments ([] :: _ :: _) => ['/', '.']
    | _ => []

def queryText (u : Url) : List Char :=
  match u.query with
  | some query => '?' :: query
  | none => []

def fragmentText (u : Url) : List Char :=
  match u.fragment with
  | some fragment => '#' :: fragment
  | none => []

def text (u : Url) : String :=
  String.ofList (u.scheme ++ ':' :: u.authorityText ++ u.path.text ++ u.queryText ++ u.fragmentText)

/-- The part of a URL that a request names: path and query. -/
def target (u : Url) : String :=
  String.ofList (u.path.text ++ u.queryText)

def isHttp (u : Url) : Bool :=
  u.scheme = ['h', 't', 't', 'p'] || u.scheme = ['h', 't', 't', 'p', 's']

theorem isSpecialScheme_of_isHttp {u : Url} (http : u.isHttp = true) :
    isSpecialScheme u.scheme = true ∧ isFileScheme u.scheme = false := by
  rcases Bool.or_eq_true_iff.mp http with scheme | scheme
  · rw [of_decide_eq_true scheme]
    decide
  · rw [of_decide_eq_true scheme]
    decide

end Url
end CpuUsage
