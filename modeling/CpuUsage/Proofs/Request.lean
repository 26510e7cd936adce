import CpuUsage.Platform

/-! Requests on the wire. A request that can be made takes the next reply, and what this tells is all that the answer
depends on; one that cannot be made leaves the wire as it is. -/
namespace CpuUsage

/-- What a reply tells, as a decoder reads it. -/
def Reply.told (decoder : Decoder α) : Reply → Except Failure α
  | .dropped => .error .unanswered
  | .answered status body complete => Api.decodeReply decoder status body complete

theorem Reply.eq_of_told {decoder : Decoder α} {r : Reply} {a : α} (told : r.told decoder = .ok a) :
    ∃ status body, r = .answered status body true ∧ decodeText? decoder body = some a := by
  cases r with
  | dropped => cases told
  | answered status body complete =>
    simp only [Reply.told, Api.decodeReply] at told
    split at told
    · cases told
    · cases complete with
      | false => cases told
      | true =>
        cases decoded : decodeText? decoder body with
        | none => simp [decoded] at told
        | some answer =>
          simp only [decoded, Bool.not_true, Bool.false_eq_true, if_false, Except.ok.injEq] at told
          exact ⟨status, body, rfl, told ▸ decoded⟩

namespace Api

/-- Of a complete reply that is accepted only the body counts. -/
theorem decodeReply_accepted {decoder : Decoder α} {status : Nat} {body : String} (low : 200 ≤ status)
    (high : status < 300) :
    decodeReply decoder status body true = match decodeText? decoder body with
      | some a => .ok a
      | none => .error .undecodable := by
  have accepted : ¬ (status < 200 ∨ 300 ≤ status) := by omega
  rw [decodeReply, if_neg accepted]
  rfl

def request (api : Api) (u : Url) : Request :=
  ⟨u, u.authorization ++ [api.authorization]⟩

/-- A request can be made of a URL. -/
structure Sends (api : Api) (u : Url) : Prop where
  http : u.isHttp = true
  header : isHeaderValue api.authorization = true

theorem fetch_run {api : Api} {u : Url} (sends : api.Sends u) (decoder : Decoder α) (r : Reply) (rest : List Reply)
    (sent : List Request) :
    (api.fetch decoder u).run ⟨r :: rest, sent⟩ = (r.told decoder, ⟨rest, sent ++ [api.request u]⟩) := by
  rw [fetch, sends.http, sends.header]
  cases r with
  | dropped => rfl
  | answered status body complete => exact Session.run_ofExcept _ _

theorem fetch_run_nil {api : Api} {u : Url} (sends : api.Sends u) (decoder : Decoder α) (sent : List Request) :
    (api.fetch decoder u).run ⟨[], sent⟩ = (.error .unanswered, ⟨[], sent ++ [api.request u]⟩) := by
  rw [fetch, sends.http, sends.header]
  rfl

/-- Whatever the reply, a request that can be made is sent once. -/
theorem sent_fetch {api : Api} {u : Url} (sends : api.Sends u) (decoder : Decoder α) (w : Wire) :
    ((api.fetch decoder u).run w).2.sent = w.sent ++ [api.request u] := by
  obtain ⟨replies, sent⟩ := w
  cases replies with
  | nil => rw [fetch_run_nil sends]
  | cons r rest => rw [fetch_run sends]

theorem fetch_run_unsent {api : Api} {u : Url} (unsent : ¬ api.Sends u) (decoder : Decoder α) (w : Wire) :
    (api.fetch decoder u).run w = (.error .unanswered, w) := by
  have refused : (!u.isHttp || !isHeaderValue api.authorization) = true := by
    cases http : u.isHttp with
    | false => rfl
    | true =>
      cases header : isHeaderValue api.authorization with
      | false => rfl
      | true => exact absurd ⟨http, header⟩ unsent
  rw [fetch, if_pos refused]
  rfl

end Api

namespace Session

/-- A computation that makes one request and tells what the reply tells, or that fails before it makes any. -/
inductive AsksOnce (x : Session Wire α) (tell : Reply → Except Failure α) : Prop where
  | never (e : Failure) : (∀ w, x.run w = (.error e, w)) → AsksOnce x tell
  | once (request : Request) :
      (∀ r rest sent, x.run ⟨r :: rest, sent⟩ = (tell r, ⟨rest, sent ++ [request]⟩)) →
      (∀ sent, x.run ⟨[], sent⟩ = (.error .unanswered, ⟨[], sent ++ [request]⟩)) → AsksOnce x tell

/-- To judge an answer asks nothing. -/
theorem snd_run_bind_ofExcept (x : Session σ α) (f : α → Except Failure β) (s : σ) :
    ((x >>= fun a => ofExcept (f a)).run s).2 = (x.run s).2 := by
  rcases ran : x.run s with ⟨result, s'⟩
  cases result with
  | error e => rw [run_bind_error ran]
  | ok a => rw [run_bind_ok ran, run_ofExcept]

theorem AsksOnce.bind_ofExcept {x : Session Wire α} {tell : Reply → Except Failure α} (asks : AsksOnce x tell)
    (f : α → Except Failure β) : AsksOnce (x >>= fun a => ofExcept (f a)) fun r => tell r >>= f := by
  cases asks with
  | never e unsent => exact .never e fun w => run_bind_error (unsent w)
  | once request told untold =>
    refine .once request (fun r rest sent => ?_) fun sent => run_bind_error (untold sent)
    cases answer : tell r with
    | error e => rw [run_bind_error ((told r rest sent).trans (by rw [answer]))]; rfl
    | ok a =>
      rw [run_bind_ok ((told r rest sent).trans (by rw [answer])), run_ofExcept]
      rfl

theorem AsksOnce.map {x : Session Wire α} {tell : Reply → Except Failure α} (asks : AsksOnce x tell) (f : α → β) :
    AsksOnce (x >>= fun a => pure (f a)) fun r => tell r >>= fun a => .ok (f a) :=
  asks.bind_ofExcept fun a => .ok (f a)

theorem AsksOnce.told_of_ok {x : Session Wire α} {tell : Reply → Except Failure α} (asks : AsksOnce x tell)
    {w w' : Wire} {a : α} (ran : x.run w = (.ok a, w')) : ∃ r rest, w.replies = r :: rest ∧ tell r = .ok a := by
  obtain ⟨replies, sent⟩ := w
  cases asks with
  | never e unsent =>
    rw [unsent] at ran
    cases ran
  | once request told untold =>
    cases replies with
    | nil =>
      rw [untold] at ran
      cases ran
    | cons r rest =>
      rw [told] at ran
      exact ⟨r, rest, rfl, congrArg Prod.fst ran⟩

end Session

theorem Api.asksOnce_get (api : Api) (path : String) (ps : Parameters) (decoder : Decoder α) :
    Session.AsksOnce (api.get path ps decoder) (Reply.told decoder) := by
  rw [get]
  cases api.base.resolve path with
  | error e => exact .never (.invalidPath e) fun w => rfl
  | ok u =>
    by_cases sends : api.Sends (u.addParameters ps)
    · exact .once _ (fetch_run sends decoder) (fetch_run_nil sends decoder)
    · exact .never .unanswered (fetch_run_unsent sends decoder)

namespace MetricsStore

theorem asksOnce_query (api : Api) (path : String) (ps : Parameters) (item : Decoder α) :
    Session.AsksOnce (query api path ps item) fun r => r.told (outcome item) >>= Outcome.toExcept :=
  (api.asksOnce_get path ps (outcome item)).bind_ofExcept Outcome.toExcept

/-- The samples that results tell of. -/
def samplesOf (raw : List (Labels × RawPoint)) : List Sample :=
  raw.filterMap fun s => (pointOf? s.2).map fun p => ⟨s.1, p⟩

def seriesOf (raw : List (Labels × List RawPoint)) : List Series :=
  raw.map fun s => ⟨s.1, s.2.filterMap pointOf?⟩

theorem asksOnce_instant (api : Api) (text : String) :
    Session.AsksOnce (instant api text)
      fun r => (r.told (outcome rawSample) >>= Outcome.toExcept) >>= fun raw => .ok (samplesOf raw) :=
  (asksOnce_query api "api/v1/query" [("query", text)] rawSample).map samplesOf

theorem asksOnce_range (api : Api) (text : String) (start stop : Instant) (stepNanos : Nat) :
    Session.AsksOnce (range api text start stop stepNanos)
      fun r => (r.told (outcome rawSeries) >>= Outcome.toExcept) >>= fun raw => .ok (seriesOf raw) :=
  (asksOnce_query api "api/v1/query_range" _ rawSeries).map seriesOf

end MetricsStore
end CpuUsage
