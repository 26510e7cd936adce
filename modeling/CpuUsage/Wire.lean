import CpuUsage.Session
import CpuUsage.Url.Parse

/-! Requests and the replies to them. The replies are known beforehand and are taken in the order of the requests,
so a computation that talks to servers is a function of them. -/
namespace CpuUsage

/-- A request to read what a URL names, with the values of its authorization headers. -/
structure Request where
  url : Url
  authorization : List String
  deriving DecidableEq

inductive Reply where
  /-- The connection ended without an answer. -/
  | dropped
  /-- An answer, whose body may have ended too early. Its headers are left out, so it leads to no other place. -/
  | answered (status : Nat) (body : String) (complete : Bool)
  deriving DecidableEq

/-- The replies that are left and the requests so far, first one first. -/
structure Wire where
  replies : List Reply
  sent : List Request
  deriving DecidableEq

namespace Wire

def new (replies : List Reply) : Wire :=
  ⟨replies, []⟩

def exchange (r : Request) : Session Wire (Nat × String × Bool) := fun w =>
  let sent := w.sent ++ [r]
  match w.replies with
  | .answered status body complete :: rest => (.ok (status, body, complete), ⟨rest, sent⟩)
  | .dropped :: rest => (.error .unanswered, ⟨rest, sent⟩)
  | [] => (.error .unanswered, ⟨[], sent⟩)

end Wire
end CpuUsage
