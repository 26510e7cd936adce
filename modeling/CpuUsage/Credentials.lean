import CpuUsage.Text.Blank
import CpuUsage.Url.Basic

/-! The authorization headers of a request: a bearer token, and a user name and password if the URL holds them. -/
namespace CpuUsage

def base64Digit (n : Nat) : Char :=
  if n < 26 then Char.ofNat (65 + n)
  else if n < 52 then Char.ofNat (71 + n)
  else if n < 62 then Char.ofNat (n - 4)
  else if n = 62 then '+'
  else '/'

/-- Three bytes as four digits; what is missing at the end is filled with equals signs. -/
def base64 : List UInt8 → List Char
  | [] => []
  | [a] =>
    let n := a.toNat * 16
    [base64Digit (n / 64), base64Digit (n % 64), '=', '=']
  | [a, b] =>
    let n := (a.toNat * 256 + b.toNat) * 4
    [base64Digit (n / 4096), base64Digit (n / 64 % 64), base64Digit (n % 64), '=']
  | a :: b :: c :: rest =>
    let n := (a.toNat * 256 + b.toNat) * 256 + c.toNat
    [base64Digit (n / 262144), base64Digit (n / 4096 % 64), base64Digit (n / 64 % 64), base64Digit (n % 64)] ++
      base64 rest

/-- The header for a token, which may come with its scheme and with blanks around it. -/
def bearerHeader (token : String) : String :=
  let cs := trimBlanks token.toList
  let scheme := cs.takeWhile (· ≠ ' ')
  if scheme.length < cs.length ∧ String.ofList (scheme.map asciiLower) = "bearer" then String.ofList cs
  else "bearer " ++ String.ofList cs

/-- Tabs, and all from the blank on but the delete character. -/
def isHeaderChar (c : Char) : Bool :=
  c = '\x09' || (0x20 ≤ c.toNat && c ≠ '\x7f')

def isHeaderValue (value : String) : Bool :=
  value.toList.all isHeaderChar

namespace Url

/-- The decoded user name and password, unless both are empty or the name is not text. -/
def Authority.credentials? (a : Authority) : Option (String × Option String) := do
  let username ← ofUtf8? (percentDecode a.username)
  let password := if a.password = [] then none else ofUtf8? (percentDecode a.password)
  if username = "" ∧ password = none then none else some (username, password)

def basicHeader (username password : String) : String :=
  "Basic " ++ String.ofList (base64 (username ++ ":" ++ password).toUTF8.toList)

def authorization (u : Url) : List String :=
  match u.authority.bind (·.credentials?) with
  | some (username, password) => [basicHeader username (password.getD "")]
  | none => []

end Url
end CpuUsage
