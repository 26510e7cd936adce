/-! Points in time, as seconds since the epoch and nanoseconds. The calendar spans the years -262143 to 262142. A
leap second is the last second of a minute with a thousand million nanoseconds or more. -/
namespace CpuUsage

def minSeconds : Int :=
  -8334601228800

def maxSeconds : Int :=
  8210266876799

def nanosPerSecond : Nat :=
  1000000000

structure Instant where
  seconds : Int
  nanos : Nat
  minSeconds_le : minSeconds ≤ seconds
  le_maxSeconds : seconds ≤ maxSeconds
  nanos_lt : nanos < 2 * nanosPerSecond
  leap : nanosPerSecond ≤ nanos → seconds % 60 = 59
  deriving DecidableEq

namespace Instant

def ofParts? (seconds : Int) (nanos : Nat) : Option Instant :=
  if h : minSeconds ≤ seconds ∧ seconds ≤ maxSeconds ∧ nanos < 2 * nanosPerSecond ∧
      (nanosPerSecond ≤ nanos → seconds % 60 = 59) then
    some ⟨seconds, nanos, h.1, h.2.1, h.2.2.1, h.2.2.2⟩
  else none

def epoch : Instant :=
  ⟨0, 0, by decide, by decide, by decide, by decide⟩

instance : Inhabited Instant :=
  ⟨epoch⟩

instance : LT Instant where
  lt a b := a.seconds < b.seconds ∨ (a.seconds = b.seconds ∧ a.nanos < b.nanos)

instance : LE Instant where
  le a b := a.seconds < b.seconds ∨ (a.seconds = b.seconds ∧ a.nanos ≤ b.nanos)

instance (a b : Instant) : Decidable (a < b) :=
  inferInstanceAs (Decidable (a.seconds < b.seconds ∨ (a.seconds = b.seconds ∧ a.nanos < b.nanos)))

instance (a b : Instant) : Decidable (a ≤ b) :=
  inferInstanceAs (Decidable (a.seconds < b.seconds ∨ (a.seconds = b.seconds ∧ a.nanos ≤ b.nanos)))

/-- The instant so many nanoseconds after the epoch, or before it. -/
def ofNanos? (n : Int) : Option Instant :=
  ofParts? (n / nanosPerSecond) (n % nanosPerSecond).toNat

def toNanos (t : Instant) : Int :=
  t.seconds * nanosPerSecond + t.nanos

def minusSeconds? (t : Instant) (n : Int) : Option Instant :=
  ofParts? (t.seconds - n) t.nanos

end Instant
end CpuUsage
