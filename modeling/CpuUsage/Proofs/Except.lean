/-! Steps that may fail, taken apart: a chain ends where its first step failed, or goes on from what that step gave. -/
namespace CpuUsage
variable {ε α β : Type}

theorem error_of_bind {x : Except ε α} {f : α → Except ε β} {e : ε} (failed : (x >>= f) = .error e) :
    x = .error e ∨ ∃ a, x = .ok a ∧ f a = .error e := by
  cases x with
  | error e' =>
    cases failed
    exact .inl rfl
  | ok a => exact .inr ⟨a, rfl, failed⟩

theorem ok_of_bind {x : Except ε α} {f : α → Except ε β} {b : β} (passed : (x >>= f) = .ok b) :
    ∃ a, x = .ok a ∧ f a = .ok b := by
  cases x with
  | error e => cases passed
  | ok a => exact ⟨a, rfl, passed⟩

end CpuUsage
