import CpuUsage.Credentials
import CpuUsage.Json.Decode
import CpuUsage.Url.Form
import CpuUsage.Wire

/-! A remote interface that answers with documents: everything below one base URL, read with one token. -/
namespace CpuUsage

/-- Puts parameters behind a query; an empty query is none. -/
def Url.addParameters (u : Url) (ps : Parameters) : Url :=
  let added := ps.encode.toList
  let query := match u.query with
    | some old => if ps = [] then old else if old = [] then added else old ++ '&' :: added
    | none => added
  { u with query := if query = [] then none else some query }

structure Api where
  base : Url
  authorization : String
  deriving DecidableEq

namespace Api

def new (base : Url) (token : String) : Api :=
  ⟨base, bearerHeader token⟩

/-- Text of a refusal: a byte order mark does not count, and a body that broke off is nothing. -/
def refusalBody (body : String) (complete : Bool) : String :=
  if !complete then ""
  else match body.toList with
    | '\ufeff' :: rest => String.ofList rest
    | _ => body

def decodeReply (decoder : Decoder α) (status : Nat) (body : String) (complete : Bool) : Except Failure α :=
  if status < 200 ∨ 300 ≤ status then .error (.refused status (refusalBody body complete))
  else if !complete then .error .undecodable
  else match decodeText? decoder body with
    | some a => .ok a
    | none => .error .undecodable

/-- Requests a document. A URL or a token that no request can be made from is never sent. A redirection is a refusal, since
no reply says where it leads. -/
def fetch (api : Api) (decoder : Decoder α) (u : Url) : Session Wire α := do
  if !u.isHttp || !isHeaderValue api.authorization then Session.fail .unanswered
  else
    let (status, body, complete) ← Wire.exchange ⟨u, u.authorization ++ [api.authorization]⟩
    Session.ofExcept (decodeReply decoder status body complete)

def get (api : Api) (path : String) (ps : Parameters) (decoder : Decoder α) : Session Wire α :=
  match api.base.resolve path with
  | .ok u => api.fetch decoder (u.addParameters ps)
  | .error e => Session.fail (.invalidPath e)

def follow (api : Api) (link : String) (decoder : Decoder α) : Session Wire α :=
  match Url.parse link with
  | .ok u => api.fetch decoder u
  | .error e => Session.fail (.invalidLink link e)

end Api
end CpuUsage
