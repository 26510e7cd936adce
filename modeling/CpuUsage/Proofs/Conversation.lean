import CpuUsage.Call

/-! Conversations with collaborators. `Collaborators.recorded` writes every exchange down, `FailFast` says that a
conversation ran its whole course or broke off at its first failure, and the rules for `Session.Conducts` derive
that of a computation from its parts. Nothing is assumed of the collaborators. -/
namespace CpuUsage

structure Exchange where
  call : Call
  answer : Except Failure call.Answer

def Exchange.Answered (x : Exchange) : Prop :=
  ∃ a, x.answer = .ok a

abbrev Conversation : Type :=
  List Exchange

def Conversation.Answered (log : Conversation) : Prop :=
  ∀ x ∈ log, x.Answered

/-- The same collaborators, with each exchange added to a conversation that stands beside their state. -/
def Collaborators.recorded (ask : Collaborators σ) : Collaborators (σ × Conversation) := fun c s =>
  match ask c s.1 with
  | (answer, s') => (answer, s', s.2 ++ [⟨c, answer⟩])

theorem Collaborators.run_recorded {ask : Collaborators σ} {c : Call} {s s' : σ} {answer : Except Failure c.Answer}
    (answered : (ask c).run s = (answer, s')) (log : Conversation) :
    (ask.recorded c).run (s, log) = (answer, s', log ++ [⟨c, answer⟩]) := by
  rw [Session.run] at answered ⊢
  rw [recorded, answered]

/-- Either every call is answered and the conversation is a whole one with this result, or the last call fails with
`e`, the result is `e` too, and an answer to that call would have let the conversation become a whole one. -/
inductive FailFast (whole : Conversation → Except Failure α → Prop) : Conversation → Except Failure α → Prop where
  | finished {log : Conversation} {result : Except Failure α} :
      log.Answered → whole log result → FailFast whole log result
  | brokenOff {before after : Conversation} {c : Call} {answer : c.Answer} {wouldBe : Except Failure α} {e : Failure} :
      Conversation.Answered (before ++ ⟨c, .ok answer⟩ :: after) →
      whole (before ++ ⟨c, .ok answer⟩ :: after) wouldBe →
      FailFast whole (before ++ [⟨c, .error e⟩]) (.error e)

namespace Conversation

theorem answered_append {log later : Conversation} : Answered (log ++ later) ↔ log.Answered ∧ later.Answered :=
  List.forall_mem_append

theorem answered_cons {x : Exchange} {log : Conversation} : Answered (x :: log) ↔ x.Answered ∧ log.Answered :=
  List.forall_mem_cons

@[simp] theorem answered_nil : Answered [] :=
  List.forall_mem_nil _

@[simp] theorem ok_answered {c : Call} {a : c.Answer} : Exchange.Answered ⟨c, .ok a⟩ :=
  ⟨a, rfl⟩

theorem error_not_answered {c : Call} {e : Failure} : ¬ Exchange.Answered ⟨c, .error e⟩ := by
  rintro ⟨a, same⟩
  contradiction

end Conversation

namespace FailFast
variable {whole : Conversation → Except Failure α → Prop} {log : Conversation} {result : Except Failure α}

theorem failed_last (h : FailFast whole log result) {c : Call} {e : Failure} (failed : ⟨c, .error e⟩ ∈ log) :
    log.getLast? = some ⟨c, .error e⟩ ∧ result = .error e := by
  cases h with
  | finished answered => exact absurd (answered _ failed) Conversation.error_not_answered
  | brokenOff answered =>
    rcases List.mem_append.mp failed with earlier | last
    · have earlierAnswered := (Conversation.answered_append.mp answered).1 _ earlier
      exact absurd earlierAnswered Conversation.error_not_answered
    · cases List.mem_singleton.mp last
      exact ⟨List.getLast?_concat .., rfl⟩

/-- A failure comes from the last call, unless a whole conversation ends in it. -/
theorem failure_cause (h : FailFast whole log (.error e)) :
    (∃ c, log.getLast? = some ⟨c, .error e⟩) ∨ (log.Answered ∧ whole log (.error e)) := by
  cases h with
  | finished answered course => exact .inr ⟨answered, course⟩
  | brokenOff => exact .inl ⟨_, List.getLast?_concat ..⟩

theorem mono {whole' : Conversation → Except Failure α → Prop} (h : FailFast whole log result)
    (weaker : ∀ log result, whole log result → whole' log result) : FailFast whole' log result := by
  cases h with
  | finished answered course => exact .finished answered (weaker _ _ course)
  | brokenOff answered course => exact .brokenOff answered (weaker _ _ course)

theorem prepend {whole' : Conversation → Except Failure β → Prop} {said : Conversation} {result : Except Failure β}
    {whole : Conversation → Except Failure β → Prop} (answered : said.Answered) (h : FailFast whole log result)
    (extends_whole : ∀ log result, whole log result → whole' (said ++ log) result) :
    FailFast whole' (said ++ log) result := by
  cases h with
  | finished laterAnswered course =>
    exact .finished (Conversation.answered_append.mpr ⟨answered, laterAnswered⟩) (extends_whole _ _ course)
  | @brokenOff before after c answer wouldBe e laterAnswered course =>
    have course := extends_whole _ _ course
    rw [← List.append_assoc] at course ⊢
    refine .brokenOff ?_ course
    rw [List.append_assoc]
    exact Conversation.answered_append.mpr ⟨answered, laterAnswered⟩

/-- A conversation that broke off is cut as well out of any longer whole one. -/
theorem brokenOff_longer {whole' : Conversation → Except Failure β → Prop} {before after : Conversation} {c : Call}
    {answer : c.Answer} {e : Failure} (answered : Conversation.Answered (before ++ ⟨c, .ok answer⟩ :: after))
    {later : Conversation} {wouldBe : Except Failure β} (laterAnswered : later.Answered)
    (course : whole' ((before ++ ⟨c, .ok answer⟩ :: after) ++ later) wouldBe) :
    FailFast whole' (before ++ [⟨c, .error e⟩]) (.error e) := by
  rw [List.append_assoc, List.cons_append] at course
  refine .brokenOff ?_ course
  rw [← List.cons_append, ← List.append_assoc]
  exact Conversation.answered_append.mpr ⟨answered, laterAnswered⟩

end FailFast

namespace Session
variable {σ α β : Type} {ask : Collaborators σ}

/-- Every run of `x` on recorded collaborators is fail-fast, and its exchanges are theirs. Some whole conversation
can be had, so that one which breaks off before `x` begins could have gone on. -/
structure Conducts (ask : Collaborators σ) (x : Session (σ × Conversation) α)
    (whole : Conversation → Except Failure α → Prop) : Prop where
  possible : ∃ log result, Conversation.Answered log ∧ whole log result
  course : ∀ s log, ∃ said result s', x.run (s, log) = (result, s', log ++ said) ∧ FailFast whole said result ∧
    ∀ y ∈ said, ∃ t, (ask y.call t).1 = y.answer

/-- Whole conversations that end with a value. -/
def Yields (course : Conversation → α → Prop) (log : Conversation) (result : Except Failure α) : Prop :=
  ∃ a, result = .ok a ∧ course log a

/-- A whole conversation that yields a value, then one that depends on the value. -/
def Then (first : Conversation → α → Prop) (next : α → Conversation → Except Failure β → Prop) (log : Conversation)
    (result : Except Failure β) : Prop :=
  ∃ said a later, log = said ++ later ∧ first said a ∧ next a later result

theorem Conducts.mono {x : Session (σ × Conversation) α} {whole whole' : Conversation → Except Failure α → Prop}
    (h : Conducts ask x whole) (weaker : ∀ log result, whole log result → whole' log result) :
    Conducts ask x whole' := by
  obtain ⟨log, result, answered, whole⟩ := h.possible
  refine ⟨⟨log, result, answered, weaker _ _ whole⟩, ?_⟩
  intro s log
  obtain ⟨said, result, s', ran, failFast, theirs⟩ := h.course s log
  exact ⟨said, result, s', ran, failFast.mono weaker, theirs⟩

theorem conducts_pure (a : α) :
    Conducts ask (pure a) (Yields fun log result => log = [] ∧ result = a) := by
  refine ⟨⟨[], .ok a, Conversation.answered_nil, a, rfl, rfl, rfl⟩, ?_⟩
  intro s log
  refine ⟨[], .ok a, s, ?_, .finished Conversation.answered_nil ⟨a, rfl, rfl, rfl⟩, by simp⟩
  rw [run_pure, List.append_nil]

theorem conducts_fail (e : Failure) :
    Conducts (α := α) ask (fail e) fun log result => log = [] ∧ result = .error e := by
  refine ⟨⟨[], .error e, Conversation.answered_nil, rfl, rfl⟩, ?_⟩
  intro s log
  refine ⟨[], .error e, s, ?_, .finished Conversation.answered_nil ⟨rfl, rfl⟩, by simp⟩
  rw [run_fail, List.append_nil]

instance : (c : Call) → Inhabited c.Answer
  | .instant _ | .range .. | .read .. | .spaces => ⟨([] : List _)⟩
  | .org | .space | .username => ⟨""⟩
  | .application _ => ⟨Application.new "" ""⟩

theorem conducts_ask (c : Call) :
    Conducts ask (ask.recorded c) (Yields fun log a => log = [⟨c, .ok a⟩]) := by
  refine ⟨⟨[⟨c, .ok default⟩], .ok default, by simp [Conversation.answered_cons], default, rfl, rfl⟩, ?_⟩
  intro s log
  refine ⟨[⟨c, (ask c s).1⟩], (ask c s).1, (ask c s).2, rfl, ?_, ?_⟩
  · cases (ask c s).1 with
    | ok a => exact .finished (by simp [Conversation.answered_cons]) ⟨a, rfl, rfl⟩
    | error e =>
      have answered : Conversation.Answered ([] ++ ⟨c, .ok default⟩ :: []) := by simp [Conversation.answered_cons]
      exact .brokenOff answered ⟨default, rfl, rfl⟩
  · intro y member
    cases List.mem_singleton.mp member
    exact ⟨s, rfl⟩

/-- If `x` breaks off, nothing after it is asked. -/
theorem Conducts.bind {x : Session (σ × Conversation) α} {f : α → Session (σ × Conversation) β}
    {first : Conversation → α → Prop} {next : α → Conversation → Except Failure β → Prop}
    (hx : Conducts ask x (Yields first)) (hf : ∀ a, Conducts ask (f a) (next a)) :
    Conducts ask (x >>= f) (Then first next) := by
  constructor
  · obtain ⟨said, _, answered, a, rfl, course⟩ := hx.possible
    obtain ⟨later, result, laterAnswered, laterCourse⟩ := (hf a).possible
    exact ⟨said ++ later, result, Conversation.answered_append.mpr ⟨answered, laterAnswered⟩,
      said, a, later, rfl, course, laterCourse⟩
  · intro s log
    obtain ⟨said, result, s', ran, failFast, theirs⟩ := hx.course s log
    cases failFast with
    | finished answered course =>
      obtain ⟨a, rfl, course⟩ := course
      obtain ⟨later, result, s'', ranLater, laterFast, laterTheirs⟩ := (hf a).course s' (log ++ said)
      refine ⟨said ++ later, result, s'', ?_, ?_, List.forall_mem_append.mpr ⟨theirs, laterTheirs⟩⟩
      · rw [run_bind_ok ran, ranLater, List.append_assoc]
      · exact laterFast.prepend answered fun later _ laterCourse => ⟨said, a, later, rfl, course, laterCourse⟩
    | brokenOff answered course =>
      obtain ⟨a, rfl, course⟩ := course
      obtain ⟨later, result, laterAnswered, laterCourse⟩ := (hf a).possible
      refine ⟨_, _, s', run_bind_error ran, ?_, theirs⟩
      exact .brokenOff_longer answered laterAnswered ⟨_, a, later, rfl, course, laterCourse⟩

end Session
end CpuUsage
