/-! # Why a text is no URL -/

namespace SealedSession

/-- Why a text is no URL. -/
inductive UrlError where
  | relativeWithoutBase
  | relativeWithVerbatimBase
  | emptyHost
  | invalidPort
  | invalidIpv4
  | invalidIpv6
  /-- A character that no domain has. -/
  | invalidDomain
  /-- A character that no host has. -/
  | invalidHost
deriving DecidableEq, Repr, Inhabited

namespace UrlError

def message : UrlError → String
  | .relativeWithoutBase => "relative URL without a base"
  | .relativeWithVerbatimBase => "relative URL with a cannot-be-a-base base"
  | .emptyHost => "empty host"
  | .invalidPort => "invalid port number"
  | .invalidIpv4 => "invalid IPv4 address"
  | .invalidIpv6 => "invalid IPv6 address"
  | .invalidDomain => "invalid international domain name"
  | .invalidHost => "invalid domain character"

end UrlError

end SealedSession
