import CpuUsage.Url.Percent

/-! Form encoding of query parameters: a blank is written as a plus sign, and of the other characters only letters,
digits and four marks stand for themselves. -/
namespace CpuUsage

def isLetterOrDigit (c : Char) : Bool :=
  isDigit c || ('a' ≤ c && c ≤ 'z') || ('A' ≤ c && c ≤ 'Z')

def isPlainInForm (c : Char) : Bool :=
  isLetterOrDigit c || c = '*' || c = '-' || c = '.' || c = '_'

def formEncode (cs : List Char) : List Char :=
  cs.flatMap fun c => if c = ' ' then ['+'] else if isPlainInForm c then [c] else percentBytes c

abbrev Parameters : Type :=
  List (String × String)

def formPair (p : String × String) : List Char :=
  formEncode p.1.toList ++ '=' :: formEncode p.2.toList

/-- The parameters in order, with ampersands between them. -/
def Parameters.encode (ps : Parameters) : String :=
  String.ofList (['&'].intercalate (ps.map formPair))

end CpuUsage
