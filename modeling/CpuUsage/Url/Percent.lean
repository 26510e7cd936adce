import CpuUsage.Json.Text

/-! Percent-encoding over UTF-8, and the sets of characters that each part of a URL has to encode. -/
namespace CpuUsage

def upperHexDigit (n : Nat) : Char :=
  if n < 10 then Char.ofNat (48 + n) else Char.ofNat (55 + n)

/-- A percent sign and two digits for each byte of the character. -/
def percentBytes (c : Char) : List Char :=
  (String.utf8EncodeChar c).flatMap fun b => ['%', upperHexDigit (b.toNat / 16), upperHexDigit (b.toNat % 16)]

def percentEncode (set : Char → Bool) (cs : List Char) : List Char :=
  cs.flatMap fun c => if set c then percentBytes c else [c]

/-- The bytes that a text stands for; a percent sign without two digits stands for itself. -/
def percentDecode : List Char → List UInt8
  | [] => []
  | '%' :: a :: b :: rest =>
    match hexValue? a, hexValue? b with
    | some high, some low => UInt8.ofNat (high * 16 + low) :: percentDecode rest
    | _, _ => String.utf8EncodeChar '%' ++ percentDecode (a :: b :: rest)
  | c :: rest => String.utf8EncodeChar c ++ percentDecode rest

def ofUtf8? (bytes : List UInt8) : Option String :=
  String.fromUTF8? bytes.toByteArray

/-- All that is not printable ASCII. -/
def inControlSet (c : Char) : Bool :=
  c.toNat < 0x20 || 0x7E < c.toNat

def inFragmentSet (c : Char) : Bool :=
  inControlSet c || c = ' ' || c = '\x22' || c = '<' || c = '>' || c = '\x60'

def inPathSet (c : Char) : Bool :=
  inFragmentSet c || c = '#' || c = '?' || c = '\x7b' || c = '\x7d'

def inUserinfoSet (c : Char) : Bool :=
  inPathSet c || c = '/' || c = ':' || c = ';' || c = '=' || c = '@' || c = '[' || c = '\x5c' || c = ']' ||
  c = '^' || c = '|'

/-- The schemes with a web-like hierarchy encode apostrophes too. -/
def inQuerySet (special : Bool) (c : Char) : Bool :=
  inControlSet c || c = ' ' || c = '\x22' || c = '#' || c = '<' || c = '>' || (special && c = '\x27')

end CpuUsage
