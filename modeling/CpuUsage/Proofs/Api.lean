import CpuUsage.Platform

/-! Requests that are answered. A request to an interface that can be reached takes one reply; what its document says is
the answer, and the replies behind it are left for later requests. -/
namespace CpuUsage

/-- A reply that carries a whole document. -/
def Reply.document (body : String) : Reply :=
  .answered 200 body true

/-- The document that characters spell. -/
def Json.ofCharacters? (cs : List Char) : Option Json :=
  match readValue? (2 * cs.length + 2) cs with
  | some (doc, rest) => if skipJsonBlanks rest = [] then some doc else none
  | none => none

/-- Reading goes by the characters of a text, which are at hand in a literal. -/
theorem decodeText?_ofList (decoder : Decoder α) (cs : List Char) :
    decodeText? decoder (String.ofList cs) = (Json.ofCharacters? cs).bind decoder := by
  rw [decodeText?, Json.read?, String.toList_ofList]
  rfl

namespace Session

/-- From these replies on, the computation comes to `a` and leaves `rest`. -/
def Answers (x : Session Wire α) (replies : List Reply) (a : α) (rest : List Reply) : Prop :=
  ∀ w, w.replies = replies → ∃ w', x.run w = (.ok a, w') ∧ w'.replies = rest

theorem answers_pure (a : α) (replies : List Reply) : Answers (pure a) replies a replies :=
  fun w left => ⟨w, rfl, left⟩

theorem Answers.bind {x : Session Wire α} {f : α → Session Wire β} {a : α} {b : β}
    {replies between rest : List Reply} (first : x.Answers replies a between) (next : (f a).Answers between b rest) :
    (x >>= f).Answers replies b rest := by
  intro w left
  obtain ⟨w', ran, left⟩ := first w left
  obtain ⟨w'', ranOn, left⟩ := next w' left
  exact ⟨w'', (run_bind_ok ran).trans ranOn, left⟩

end Session

theorem Wire.exchange_answers (r : Request) (body : String) (rest : List Reply) :
    (exchange r).Answers (.document body :: rest) (200, body, true) rest := by
  rintro ⟨replies, sent⟩ rfl
  exact ⟨_, rfl, rfl⟩

namespace Url

def Path.isHierarchical : Path → Bool
  | .segments _ => true
  | .bare _ => false

theorem exists_resolve {base : Url} (hierarchical : base.path.isHierarchical = true) (path : String) :
    ∃ u, base.resolve path = .ok u ∧ u.isHttp = base.isHttp := by
  rw [resolve]
  cases held : base.path with
  | bare text => simp [held, Path.isHierarchical] at hierarchical
  | segments done => exact ⟨_, rfl, rfl⟩

end Url

namespace Api

/-- Every request below the base can be sent. -/
structure Reachable (api : Api) : Prop where
  header : isHeaderValue api.authorization = true
  http : api.base.isHttp = true
  hierarchical : api.base.path.isHierarchical = true

instance (api : Api) : Decidable api.Reachable :=
  decidable_of_iff
    (isHeaderValue api.authorization = true ∧ api.base.isHttp = true ∧ api.base.path.isHierarchical = true)
    ⟨fun ⟨header, http, hierarchical⟩ => ⟨header, http, hierarchical⟩, fun h => ⟨h.header, h.http, h.hierarchical⟩⟩

theorem fetch_answers {api : Api} {decoder : Decoder α} {u : Url} {body : String} {a : α} (http : u.isHttp = true)
    (header : isHeaderValue api.authorization = true) (decoded : decodeText? decoder body = some a)
    (rest : List Reply) : (api.fetch decoder u).Answers (.document body :: rest) a rest := by
  have answer : decodeReply decoder 200 body true = .ok a := by simp [decodeReply, decoded]
  rw [fetch, http, header]
  refine (Wire.exchange_answers ⟨u, u.authorization ++ [api.authorization]⟩ body rest).bind ?_
  change (Session.ofExcept (decodeReply decoder 200 body true)).Answers rest a rest
  rw [answer]
  exact Session.answers_pure a rest

theorem get_answers {api : Api} (reachable : api.Reachable) {decoder : Decoder α} {body : String} {a : α}
    (decoded : decodeText? decoder body = some a) (path : String) (ps : Parameters) (rest : List Reply) :
    (api.get path ps decoder).Answers (.document body :: rest) a rest := by
  obtain ⟨u, resolved, http⟩ := Url.exists_resolve reachable.hierarchical path
  have sameScheme : (u.addParameters ps).isHttp = true := http.trans reachable.http
  rw [get, resolved]
  exact fetch_answers sameScheme reachable.header decoded rest

end Api

namespace Catalog

theorem list_answers {api : Api} (reachable : api.Reachable) {body : String} {found : List Resource}
    (decoded : decodeText? page body = some ⟨none, found⟩) (path : String) (ps : Parameters) (rest : List Reply) :
    (list api path ps).Answers (.document body :: rest) found rest := by
  refine (Api.get_answers reachable decoded path ps rest).bind ?_
  intro w left
  exact ⟨w, rfl, left⟩

theorem application_answers {c : Catalog} (reachable : c.api.Reachable) {orgs spaces apps : String}
    {org space app : Resource} (orgTold : decodeText? page orgs = some ⟨none, [org]⟩)
    (spaceTold : decodeText? page spaces = some ⟨none, [space]⟩)
    (appTold : decodeText? page apps = some ⟨none, [app]⟩) (name : String) (rest : List Reply) :
    (c.application name).Answers (.document orgs :: .document spaces :: .document apps :: rest) (.new app.name app.guid)
      rest := by
  have orgFound : c.orgGuid.Answers (.document orgs :: .document spaces :: .document apps :: rest) org.guid
      (.document spaces :: .document apps :: rest) :=
    (list_answers reachable orgTold _ _ _).bind (Session.answers_pure org.guid _)
  have spaceFound : (c.spaceGuid org.guid).Answers (.document spaces :: .document apps :: rest) space.guid
      (.document apps :: rest) :=
    (list_answers reachable spaceTold _ _ _).bind (Session.answers_pure space.guid _)
  exact orgFound.bind (spaceFound.bind ((list_answers reachable appTold _ _ _).bind (Session.answers_pure _ rest)))

end Catalog

namespace MetricsStore

theorem query_answers {api : Api} (reachable : api.Reachable) {item : Decoder α} {body : String} {answer : Outcome α}
    (decoded : decodeText? (outcome item) body = some answer) {found : List α}
    (succeeded : answer.toExcept.toOption = some found) (path : String) (ps : Parameters) (rest : List Reply) :
    (query api path ps item).Answers (.document body :: rest) found rest := by
  have told : answer.toExcept = .ok found := by
    cases outcome : answer.toExcept with
    | error e => simp [outcome, Except.toOption] at succeeded
    | ok results => simpa [outcome, Except.toOption] using succeeded
  refine (Api.get_answers reachable decoded path ps rest).bind ?_
  rw [told]
  exact Session.answers_pure found rest

/-- The samples that a document tells, if it tells of a query that succeeded. -/
def samplesIn? (body : String) : Option (List Sample) := do
  let answer ← decodeText? (outcome rawSample) body
  let samples ← answer.toExcept.toOption
  return samples.filterMap fun s => (pointOf? s.2).map fun p => ⟨s.1, p⟩

def seriesIn? (body : String) : Option (List Series) := do
  let answer ← decodeText? (outcome rawSeries) body
  let series ← answer.toExcept.toOption
  return series.map fun s => ⟨s.1, s.2.filterMap pointOf?⟩

theorem instant_answers {api : Api} (reachable : api.Reachable) {body : String} {samples : List Sample}
    (told : samplesIn? body = some samples) (text : String) (rest : List Reply) :
    (instant api text).Answers (.document body :: rest) samples rest := by
  simp only [samplesIn?, Option.bind_eq_bind, Option.bind_eq_some_iff, Option.pure_def, Option.some.injEq] at told
  obtain ⟨answer, decoded, raw, succeeded, rfl⟩ := told
  exact (query_answers reachable decoded succeeded _ _ rest).bind (Session.answers_pure _ rest)

theorem range_answers {api : Api} (reachable : api.Reachable) {body : String} {series : List Series}
    (told : seriesIn? body = some series) (text : String) (start stop : Instant) (stepNanos : Nat) (rest : List Reply) :
    (range api text start stop stepNanos).Answers (.document body :: rest) series rest := by
  simp only [seriesIn?, Option.bind_eq_bind, Option.bind_eq_some_iff, Option.pure_def, Option.some.injEq] at told
  obtain ⟨answer, decoded, raw, succeeded, rfl⟩ := told
  exact (query_answers reachable decoded succeeded _ _ rest).bind (Session.answers_pure _ rest)

end MetricsStore
end CpuUsage
