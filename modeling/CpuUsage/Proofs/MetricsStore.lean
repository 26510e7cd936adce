import CpuUsage.MetricsStore
import CpuUsage.Proofs.Usage.Historical

/-! What the metrics store is heard to say is finite: a point that is none, or is infinite, is passed over when the
answer is read. So the usage of a point is within any threshold or above it, with no third case. -/
namespace CpuUsage

namespace Binary64

/-- Fails for a number that is none, which is neither above a threshold nor within it. -/
theorem le_iff_not_lt {x y : Binary64} (hx : x.isNaN = false) (hy : y.isNaN = false) : x ≤ y ↔ ¬ y < x := by
  constructor
  · rintro ⟨_, _, below⟩ ⟨_, _, above⟩
    exact absurd above (Int.not_lt.mpr below)
  · intro notAbove
    exact ⟨hx, hy, Int.not_lt.mp fun above => notAbove ⟨hy, hx, above⟩⟩

end Binary64

namespace MetricsStore

theorem isFinite_of_pointOf? {raw : RawPoint} {p : Point} (read : pointOf? raw = some p) :
    p.value.isFinite = true := by
  simp only [pointOf?, Option.bind_eq_bind, Option.bind_eq_some_iff] at read
  obtain ⟨time, _, value, _, kept⟩ := read
  split at kept
  · next finite =>
    cases kept
    exact finite
  · contradiction

theorem isFinite_of_range {api : Api} {text : String} {start stop : Instant} {stepNanos : Nat} {w w' : Wire}
    {series : List Series} (answered : (range api text start stop stepNanos).run w = (.ok series, w')) :
    ∀ s ∈ series, ∀ p ∈ s.points, p.value.isFinite = true := by
  obtain ⟨raw, _, _, answered⟩ := Session.run_bind_eq_ok answered
  rw [Session.run_pure] at answered
  cases answered
  intro s member p isPoint
  obtain ⟨rawOf, _, rfl⟩ := List.mem_map.mp member
  obtain ⟨_, _, read⟩ := List.mem_filterMap.mp isPoint
  exact isFinite_of_pointOf? read

end MetricsStore

theorem Usage.isFinite_of_accepted {present : List Sample} {series : List Series}
    (finite : ∀ s ∈ series, ∀ p ∈ s.points, p.value.isFinite = true) {slot : InstanceId} {t : Instant} {v : Binary64}
    (accepted : Accepted present series slot t v) : v.isFinite = true := by
  obtain ⟨s, member, _, p, isPoint, _, rfl⟩ := accepted
  exact finite s member p isPoint

end CpuUsage
