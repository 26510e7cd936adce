import CpuUsage.Call

/-! Two computations side by side, each with its own collaborators. From states that correspond they come to results
that agree, and to states that correspond again; the rules derive this of a computation from its parts. What corresponds
is left open, so that states may remember whatever sets two collaborators apart. -/
namespace CpuUsage

/-- The same failure, or values that correspond. -/
inductive Agree (values : α → β → Prop) : Except Failure α → Except Failure β → Prop where
  | ok {a : α} {b : β} : values a b → Agree values (.ok a) (.ok b)
  | error {e : Failure} : Agree values (.error e) (.error e)

theorem Agree.eq {x y : Except Failure α} (h : Agree (· = ·) x y) : x = y := by
  cases h with
  | ok same => rw [same]
  | error => rfl

namespace Session
variable {σ τ α β γ δ : Type} {states : σ → τ → Prop}

structure CorrespondsFrom (states : σ → τ → Prop) (values : α → β → Prop) (s : σ) (t : τ) (x : Session σ α)
    (y : Session τ β) : Prop where
  results : Agree values (x.run s).1 (y.run t).1
  after : states (x.run s).2 (y.run t).2

def Corresponds (states : σ → τ → Prop) (values : α → β → Prop) (x : Session σ α) (y : Session τ β) : Prop :=
  ∀ s t, states s t → CorrespondsFrom states values s t x y

theorem correspondsFrom_of_run {values : α → β → Prop} {x : Session σ α} {y : Session τ β} {s s' : σ} {t t' : τ}
    {result : Except Failure α} {result' : Except Failure β} (ranX : x.run s = (result, s'))
    (ranY : y.run t = (result', t')) (results : Agree values result result') (after : states s' t') :
    CorrespondsFrom states values s t x y := by
  constructor
  · rw [ranX, ranY]
    exact results
  · rw [ranX, ranY]
    exact after

theorem corresponds_pure {values : α → β → Prop} {a : α} {b : β} (same : values a b) :
    Corresponds states values (pure a) (pure b) :=
  fun _ _ before => ⟨.ok same, before⟩

/-- The second computations need to correspond only where the first ones have led. -/
theorem CorrespondsFrom.bind {first : α → β → Prop} {values : γ → δ → Prop} {x : Session σ α} {y : Session τ β}
    {f : α → Session σ γ} {g : β → Session τ δ} {s : σ} {t : τ} (hx : CorrespondsFrom states first s t x y)
    (next : ∀ s' t' a b, x.run s = (.ok a, s') → y.run t = (.ok b, t') → first a b → states s' t' →
      CorrespondsFrom states values s' t' (f a) (g b)) :
    CorrespondsFrom states values s t (x >>= f) (y >>= g) := by
  obtain ⟨results, after⟩ := hx
  rcases ranX : x.run s with ⟨result, s'⟩
  rcases ranY : y.run t with ⟨result', t'⟩
  rw [ranX, ranY] at results after
  cases results with
  | ok same =>
    have later := next s' t' _ _ ranX ranY same after
    constructor
    · rw [run_bind_ok ranX, run_bind_ok ranY]
      exact later.results
    · rw [run_bind_ok ranX, run_bind_ok ranY]
      exact later.after
  | error => exact correspondsFrom_of_run (run_bind_error ranX) (run_bind_error ranY) .error after

theorem Corresponds.bind {first : α → β → Prop} {values : γ → δ → Prop} {x : Session σ α} {y : Session τ β}
    {f : α → Session σ γ} {g : β → Session τ δ} (hx : Corresponds states first x y)
    (next : ∀ a b, first a b → Corresponds states values (f a) (g b)) :
    Corresponds states values (x >>= f) (y >>= g) :=
  fun s t before => (hx s t before).bind fun s' t' a b _ _ same after => next a b same s' t' after

end Session
end CpuUsage
