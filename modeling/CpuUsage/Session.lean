import CpuUsage.Failure

/-! Computations that ask collaborators. The state `σ` is what the collaborators remember; it survives a failure,
so what was asked before a failure can still be told. -/
namespace CpuUsage

def Session (σ α : Type) : Type :=
  σ → Except Failure α × σ

namespace Session
variable {σ α β : Type}

def run (x : Session σ α) (s : σ) : Except Failure α × σ :=
  x s

protected def pure (a : α) : Session σ α :=
  fun s => (.ok a, s)

protected def bind (x : Session σ α) (f : α → Session σ β) : Session σ β :=
  fun s => match x s with
    | (.ok a, s') => f a s'
    | (.error e, s') => (.error e, s')

instance : Monad (Session σ) where
  pure := Session.pure
  bind := Session.bind

def fail (e : Failure) : Session σ α :=
  fun s => (.error e, s)

def ofExcept : Except Failure α → Session σ α
  | .ok a => Session.pure a
  | .error e => fail e

@[simp] theorem run_pure (a : α) (s : σ) : (pure a : Session σ α).run s = (.ok a, s) := rfl

@[simp] theorem run_fail (e : Failure) (s : σ) : (fail e : Session σ α).run s = (.error e, s) := rfl

theorem run_ofExcept (x : Except Failure α) (s : σ) : (ofExcept x).run s = (x, s) := by
  cases x <;> rfl

theorem run_bind (x : Session σ α) (f : α → Session σ β) (s : σ) :
    (x >>= f).run s = match x.run s with
      | (.ok a, s') => (f a).run s'
      | (.error e, s') => (.error e, s') := rfl

theorem run_bind_ok {x : Session σ α} {f : α → Session σ β} {s s' : σ} {a : α} (h : x.run s = (.ok a, s')) :
    (x >>= f).run s = (f a).run s' := by
  rw [run_bind, h]

theorem run_bind_error {x : Session σ α} {f : α → Session σ β} {s s' : σ} {e : Failure}
    (h : x.run s = (.error e, s')) : (x >>= f).run s = (.error e, s') := by
  rw [run_bind, h]

theorem run_bind_eq_ok {x : Session σ α} {f : α → Session σ β} {s s' : σ} {b : β}
    (h : (x >>= f).run s = (.ok b, s')) : ∃ a s₁, x.run s = (.ok a, s₁) ∧ (f a).run s₁ = (.ok b, s') := by
  rw [run_bind] at h
  split at h
  · next a s₁ ran => exact ⟨a, s₁, ran, h⟩
  · cases h

end Session
end CpuUsage
