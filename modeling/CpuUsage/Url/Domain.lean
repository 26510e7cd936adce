import CpuUsage.Text.Blank
import CpuUsage.Text.Case
import CpuUsage.Text.Split
import CpuUsage.Url.Percent
import CpuUsage.Url.Punycode

/-! Domain names in their ASCII form: lower case, full-width forms narrowed, invisible characters left out, and
labels beyond ASCII in punycode. -/
namespace CpuUsage.Domain

/-- Characters that leave no trace in a name. -/
def isInvisible (c : Char) : Bool :=
  let n := c.toNat
  n = 0xAD || n = 0x200B || n = 0x2060 || n = 0xFEFF || n = 0x34F || (0xFE00 ≤ n && n ≤ 0xFE0F)

/-- Characters beyond ASCII that no label has: controls, marks of direction, private ones, and those that stand for
no character. -/
def isRefused (c : Char) : Bool :=
  let n := c.toNat
  (0x80 ≤ n && n ≤ 0x9F) || n = 0x200E || n = 0x200F || (0x202A ≤ n && n ≤ 0x202E) || (0x2066 ≤ n && n ≤ 0x206F) ||
  (0xE000 ≤ n && n ≤ 0xF8FF) || (0xFDD0 ≤ n && n ≤ 0xFDEF) || (0xFFF0 ≤ n && n ≤ 0xFFFF) || 0xE0000 ≤ n

def isDot (c : Char) : Bool :=
  c = '.' || c = '\u3002' || c = '\uff0e' || c = '\uff61'

def normalize (c : Char) : Char :=
  let n := c.toNat
  if isDot c then '.'
  else if 0xFF01 ≤ n ∧ n ≤ 0xFF5E then asciiLower (Char.ofNat (n - 0xFEE0))
  else if isBlank c ∧ 0x80 ≤ n then ' '
  else lowerLetter c

def isForbidden (c : Char) : Bool :=
  c.toNat ≤ 0x20 || c = '\x7f' || c = '#' || c = '%' || c = '/' || c = ':' || c = '<' || c = '>' || c = '?' ||
  c = '@' || c = '[' || c = '\x5c' || c = ']' || c = '^' || c = '|'

/-- Whether a code point stands in a label just as it is written. -/
def isSettled (code : Nat) : Bool :=
  let c := Char.ofNat code
  c.toNat = code && normalize c = c && !isDot c && !isForbidden c && !isInvisible c && !isRefused c

def punycodeMark : List Char :=
  ['x', 'n', '-', '-']

/-- A label in ASCII; one that claims to be punycode has to stand for more than ASCII. -/
def labelToAscii? (label : List Char) : Option (List Char) :=
  if punycodeMark.isPrefixOf label then do
    let codes ← Punycode.decode? (label.drop punycodeMark.length)
    if codes.any (127 < ·) && codes.all isSettled then some label else none
  else if label.all Punycode.isAscii then some label
  else if label.any isRefused then none
  else some (punycodeMark ++ Punycode.encode label)

/-- The ASCII form of a name. Of the mapping that names go through this does what the module says and no more: characters
are not composed or decomposed, of foldings there is only the lower case, and labels are not checked for which
characters may stand beside each other. -/
def toAscii? (name : List Char) : Option (List Char) := do
  let name := (name.filter fun c => !isInvisible c).map normalize
  let parts ← (splitParts (· = '.') name).mapM labelToAscii?
  let ascii := ['.'].intercalate parts
  if ascii.any isForbidden then none else some ascii

end CpuUsage.Domain
