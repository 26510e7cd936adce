import CpuUsage.Proofs.Request
import Mathlib.Logic.Relation

/-! What happens on the wire. Each exchange adds one request and takes the next reply, so that the requests that any number
of them make are those that every single one may make. -/
namespace CpuUsage

/-- The request carries this header behind the credentials in its own URL, and no other. -/
def Request.Bears (header : String) (r : Request) : Prop :=
  r.authorization = r.url.authorization ++ [header]

theorem Api.bears_request (api : Api) (u : Url) : (api.request u).Bears api.authorization :=
  rfl

namespace Wire
variable {allowed : Request → Prop} {w w' : Wire}

/-- One exchange, of a request that is allowed. -/
def Step (allowed : Request → Prop) (w w' : Wire) : Prop :=
  ∃ r, allowed r ∧ ((exchange r).run w).2 = w'

abbrev Steps (allowed : Request → Prop) : Wire → Wire → Prop :=
  Relation.ReflTransGen (Step allowed)

theorem run_exchange (r : Request) (w : Wire) : ((exchange r).run w).2 = ⟨w.replies.tail, w.sent ++ [r]⟩ := by
  obtain ⟨replies, sent⟩ := w
  cases replies with
  | nil => rfl
  | cons reply rest => cases reply <;> rfl

theorem Step.eq (step : Step allowed w w') : ∃ r, allowed r ∧ w' = ⟨w.replies.tail, w.sent ++ [r]⟩ := by
  obtain ⟨r, permitted, rfl⟩ := step
  exact ⟨r, permitted, run_exchange r w⟩

theorem Steps.sent_append (steps : Steps allowed w w') :
    ∃ made, w'.sent = w.sent ++ made ∧ ∀ r ∈ made, allowed r := by
  induction steps with
  | refl => exact ⟨[], (List.append_nil _).symm, by simp⟩
  | tail _ step ih =>
    obtain ⟨made, sent, permitted⟩ := ih
    obtain ⟨r, isAllowed, rfl⟩ := step.eq
    refine ⟨made ++ [r], by rw [sent, List.append_assoc], ?_⟩
    simpa [or_imp, forall_and] using ⟨permitted, isAllowed⟩

/-- Where nothing had been sent, all that is sent was allowed. -/
theorem Steps.allowed_of_mem {replies : List Reply} (steps : Steps allowed (.new replies) w') :
    ∀ r ∈ w'.sent, allowed r := by
  obtain ⟨made, sent, permitted⟩ := steps.sent_append
  rw [sent]
  simpa [Wire.new] using permitted

end Wire
end CpuUsage
