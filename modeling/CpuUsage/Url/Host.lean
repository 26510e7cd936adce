import CpuUsage.Url.Address
import CpuUsage.Url.Domain
import CpuUsage.Url.Error

/-! Hosts. Web-like schemes name a domain or an address; any other scheme may use a name of its own. -/
namespace CpuUsage

inductive Host where
  | name (text : List Char)
  | ipv4 (address : Nat)
  | ipv6 (pieces : List Nat)
  deriving DecidableEq

namespace Host

def text : Host → List Char
  | .name text => text
  | .ipv4 address => Ipv4.write address
  | .ipv6 pieces => '[' :: Ipv6.write pieces ++ [']']

def parseBracketed (cs : List Char) : Except Url.Error Host :=
  if cs.getLast? = some ']' then
    match Ipv6.read? cs.dropLast with
    | some pieces => .ok (.ipv6 pieces)
    | none => .error .invalidIpv6
  else .error .invalidIpv6

def parseDomain (cs : List Char) : Except Url.Error Host :=
  match cs with
  | '[' :: rest => parseBracketed rest
  | cs =>
    match (ofUtf8? (percentDecode cs)).bind fun name => Domain.toAscii? name.toList with
    | none => .error .invalidInternationalName
    | some ascii =>
      if ascii = [] then .error .emptyHost
      else if Ipv4.isClaimed ascii then
        match Ipv4.read? ascii with
        | some address => .ok (.ipv4 address)
        | none => .error .invalidIpv4
      else .ok (.name ascii)

def isForbiddenInName (c : Char) : Bool :=
  c = '\x00' || c = '\x09' || c = '\x0a' || c = '\x0d' || c = ' ' || c = '#' || c = '/' || c = ':' || c = '<' ||
  c = '>' || c = '?' || c = '@' || c = '[' || c = '\x5c' || c = ']' || c = '^' || c = '|'

/-- A name that the scheme gives a meaning to; it may be empty. -/
def parseName (cs : List Char) : Except Url.Error Host :=
  match cs with
  | '[' :: rest => parseBracketed rest
  | cs =>
    if cs.any isForbiddenInName then .error .invalidHostCharacter
    else .ok (.name (percentEncode inControlSet cs))

end Host
end CpuUsage
