import CpuUsage.Text.Number

/-! Lower case for letters of the Latin, Greek and Cyrillic alphabets. -/
namespace CpuUsage

/-- The distance to the lower-case letter; neighbours in pairs differ by one. -/
def caseDistance (n : Nat) : Nat :=
  if 0x41 ≤ n ∧ n ≤ 0x5A then 32
  else if 0xC0 ≤ n ∧ n ≤ 0xDE then if n = 0xD7 then 0 else 32
  else if 0x100 ≤ n ∧ n ≤ 0x137 ∧ n ≠ 0x130 then 1 - n % 2
  else if 0x139 ≤ n ∧ n ≤ 0x148 then n % 2
  else if 0x14A ≤ n ∧ n ≤ 0x177 then 1 - n % 2
  else if n = 0x179 ∨ n = 0x17B ∨ n = 0x17D then 1
  else if n = 0x386 then 38
  else if 0x388 ≤ n ∧ n ≤ 0x38A then 37
  else if n = 0x38C then 64
  else if n = 0x38E ∨ n = 0x38F then 63
  else if 0x391 ≤ n ∧ n ≤ 0x3AB ∧ n ≠ 0x3A2 then 32
  else if 0x400 ≤ n ∧ n ≤ 0x40F then 80
  else if 0x410 ≤ n ∧ n ≤ 0x42F then 32
  else if 0x460 ≤ n ∧ n ≤ 0x481 then 1 - n % 2
  else if 0x1E00 ≤ n ∧ n ≤ 0x1E95 then 1 - n % 2
  else if 0x1EA0 ≤ n ∧ n ≤ 0x1EFF then 1 - n % 2
  else 0

/-- The lower-case letter. The sign for the unit kelvin is the letter K, and a capital Y with diaeresis lies apart
from its small letter. -/
def lowerLetter (c : Char) : Char :=
  if c = '\u212a' then 'k'
  else if c = '\u0178' then '\u00ff'
  else Char.ofNat (c.toNat + caseDistance c.toNat)

end CpuUsage
