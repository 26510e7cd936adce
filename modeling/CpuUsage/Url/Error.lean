/-! Why a text is not a URL. -/
namespace CpuUsage

inductive Url.Error where
  | emptyHost
  | invalidInternationalName
  | invalidPort
  | invalidIpv4
  | invalidIpv6
  | invalidHostCharacter
  | noScheme
  /-- The base has a path that nothing can be resolved against. -/
  | baseWithoutHierarchy
  deriving DecidableEq

def Url.Error.message : Url.Error → String
  | .emptyHost => "empty host"
  | .invalidInternationalName => "invalid international domain name"
  | .invalidPort => "invalid port number"
  | .invalidIpv4 => "invalid IPv4 address"
  | .invalidIpv6 => "invalid IPv6 address"
  | .invalidHostCharacter => "invalid domain character"
  | .noScheme => "relative URL without a base"
  | .baseWithoutHierarchy => "relative URL with a cannot-be-a-base base"

end CpuUsage
