import CpuUsage.Text.Number

/-! Punycode: a label with other characters than ASCII as ASCII. The characters are taken in ascending order, each one
as the distance from the place before it, in digits of base 36 whose thresholds adapt to the distances so far. -/
namespace CpuUsage.Punycode

def digit (n : Nat) : Char :=
  if n < 26 then Char.ofNat (97 + n) else Char.ofNat (22 + n)

def digitValue? (c : Char) : Option Nat :=
  let c := asciiLower c
  if 'a' ≤ c ∧ c ≤ 'z' then some (c.toNat - 97)
  else if isDigit c then some (c.toNat - 22)
  else none

/-- The threshold of the digit with this weight position, from 1 to 26. -/
def threshold (bias position : Nat) : Nat :=
  min 26 (max 1 (position - bias))

theorem threshold_pos (bias position : Nat) : 0 < threshold bias position := by
  unfold threshold; omega

theorem threshold_lt (bias position : Nat) : threshold bias position < 36 := by
  unfold threshold; omega

/-- Scales a distance down to 455, counting 36 for each division. -/
def settle (delta k : Nat) : Nat :=
  if 455 < delta then settle (delta / 35) (k + 36) else k + 36 * delta / (delta + 38)
termination_by delta
decreasing_by exact Nat.div_lt_self (by omega) (by omega)

def adapt (delta count : Nat) (first : Bool) : Nat :=
  let delta := if first then delta / 700 else delta / 2
  settle (delta + delta / count) 0

def writeDistance (bias position n : Nat) : List Char :=
  let t := threshold bias position
  if n < t then [digit n]
  else digit (t + (n - t) % (36 - t)) :: writeDistance bias (position + 36) ((n - t) / (36 - t))
termination_by n
decreasing_by
  have := threshold_pos bias position
  exact Nat.lt_of_le_of_lt (Nat.div_le_self _ _) (by omega)

structure Progress where
  text : List Char
  delta : Nat
  bias : Nat
  handled : Nat

/-- Passes one character of the label while `code` is being placed. -/
def pass (basic code : Nat) (p : Progress) (c : Char) : Progress :=
  if c.toNat < code then { p with delta := p.delta + 1 }
  else if c.toNat = code then
    ⟨p.text ++ writeDistance p.bias 36 p.delta, 0, adapt p.delta (p.handled + 1) (p.handled = basic), p.handled + 1⟩
  else p

def encodeFrom (label : List Char) (basic : Nat) : List Nat → Nat → Progress → List Char
  | [], _, p => p.text
  | code :: codes, last, p =>
    let p := { p with delta := p.delta + (code - last) * (p.handled + 1) }
    let p := label.foldl (pass basic code) p
    encodeFrom label basic codes (code + 1) { p with delta := p.delta + 1 }

def isAscii (c : Char) : Bool :=
  c.toNat < 128

def encode (label : List Char) : List Char :=
  let basic := label.filter isAscii
  let codes := ((label.filter fun c => !isAscii c).map Char.toNat).mergeSort.eraseReps
  let start := if basic = [] then [] else basic ++ ['-']
  encodeFrom label basic.length codes 128 ⟨start, 0, 72, basic.length⟩

/-- Reads one distance, lowest digit first. -/
def readDistance? (bias position weight n : Nat) : List Char → Option (Nat × List Char)
  | [] => none
  | c :: rest => do
    let d ← digitValue? c
    let t := threshold bias position
    let n := n + d * weight
    if d < t then return (n, rest)
    else readDistance? bias (position + 36) (weight * (36 - t)) n rest

def insertAt (codes : List Nat) (place code : Nat) : List Nat :=
  codes.take place ++ code :: codes.drop place

/-- Places the characters that the digits tell; each takes at least one digit. -/
def decodeFrom? : Nat → List Char → Nat → Nat → Nat → List Nat → Option (List Nat)
  | _, [], _, _, _, codes => some codes
  | 0, _, _, _, _, _ => none
  | fuel + 1, cs, code, place, bias, codes => do
    let (n, rest) ← readDistance? bias 36 1 0 cs
    let count := codes.length + 1
    let sum := place + n
    let code := code + sum / count
    let spot := sum % count
    if 0x10FFFF < code then none
    else decodeFrom? fuel rest code (spot + 1) (adapt n count (place = 0)) (insertAt codes spot code)

/-- The code points of a label, from the text behind its mark. -/
def decode? (text : List Char) : Option (List Nat) :=
  let tail := (text.reverse.takeWhile (· ≠ '-')).reverse
  let basic := text.take (text.length - tail.length - 1)
  if !text.all isAscii then none
  else decodeFrom? (tail.length + 1) tail 128 0 72 (basic.map Char.toNat)

end CpuUsage.Punycode
