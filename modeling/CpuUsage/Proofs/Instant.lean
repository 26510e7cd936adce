import CpuUsage.Instant
import CpuUsage.Text.Number
import Mathlib.Order.Defs.LinearOrder

/-! Instants are linearly ordered. Every 64-bit count of nanoseconds since the epoch is one, and such a count tells an instant
without a leap second. -/
namespace CpuUsage.Instant

theorem le_iff (a b : Instant) : a ≤ b ↔ a.seconds < b.seconds ∨ (a.seconds = b.seconds ∧ a.nanos ≤ b.nanos) :=
  Iff.rfl

theorem lt_iff (a b : Instant) : a < b ↔ a.seconds < b.seconds ∨ (a.seconds = b.seconds ∧ a.nanos < b.nanos) :=
  Iff.rfl

theorem ext_parts {a b : Instant} (seconds : a.seconds = b.seconds) (nanos : a.nanos = b.nanos) : a = b := by
  cases a
  cases b
  simp only at seconds nanos
  subst seconds nanos
  rfl

instance : LinearOrder Instant where
  le_refl a := by rw [le_iff]; omega
  le_trans a b c := by simp only [le_iff]; omega
  lt_iff_le_not_ge a b := by simp only [le_iff, lt_iff]; omega
  le_antisymm a b before after := by
    simp only [le_iff] at before after
    exact ext_parts (by omega) (by omega)
  le_total a b := by simp only [le_iff]; omega
  toDecidableLE := inferInstance

/-- Some 292 years on either side of the epoch, well within the calendar. -/
theorem exists_ofNanos? {n : Int} (fits : fitsInt64 n = true) : ∃ t, ofNanos? n = some t ∧ t.toNanos = n := by
  simp only [fitsInt64, Bool.and_eq_true, decide_eq_true_eq] at fits
  have parts : minSeconds ≤ n / nanosPerSecond ∧ n / nanosPerSecond ≤ maxSeconds ∧
      (n % nanosPerSecond).toNat < 2 * nanosPerSecond ∧
      (nanosPerSecond ≤ (n % nanosPerSecond).toNat → n / nanosPerSecond % 60 = 59) := by
    simp only [minSeconds, maxSeconds, nanosPerSecond]
    omega
  refine ⟨_, dif_pos parts, ?_⟩
  simp only [toNanos, nanosPerSecond]
  omega

/-- No leap second, and a count of nanoseconds that 64 bits hold. -/
structure Exact (t : Instant) : Prop where
  noLeap : t.nanos < nanosPerSecond
  fits : fitsInt64 t.toNanos = true

theorem exact_of_ofNanos? {n : Int} {t : Instant} (fits : fitsInt64 n = true) (read : ofNanos? n = some t) :
    t.Exact := by
  obtain ⟨t', read', count⟩ := exists_ofNanos? fits
  cases Option.some.inj (read'.symm.trans read)
  refine ⟨?_, count ▸ fits⟩
  rw [ofNanos?, ofParts?, Option.dite_none_right_eq_some] at read
  obtain ⟨_, same⟩ := read
  rw [← Option.some.inj same]
  simp only [nanosPerSecond]
  omega

/-- Its count of nanoseconds tells an instant. -/
theorem Exact.ofNanos?_toNanos {t : Instant} (exact : t.Exact) : ofNanos? t.toNanos = some t := by
  have seconds : t.toNanos / nanosPerSecond = t.seconds := by
    have := exact.noLeap
    simp only [toNanos, nanosPerSecond] at this ⊢
    omega
  have nanos : (t.toNanos % nanosPerSecond).toNat = t.nanos := by
    have := exact.noLeap
    simp only [toNanos, nanosPerSecond] at this ⊢
    omega
  rw [ofNanos?, seconds, nanos, ofParts?, dif_pos ⟨t.minSeconds_le, t.le_maxSeconds, t.nanos_lt, t.leap⟩]

end CpuUsage.Instant
