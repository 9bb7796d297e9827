/-!
# Why a text is no URL
-/

namespace ReviewQuery.Url

/-- A fault of a text that should be an absolute URL. -/
inductive Error where
  /-- There is no host where one is needed. -/
  | emptyHost
  /-- The host is no domain name. -/
  | invalidDomain
  /-- The port is no number of sixteen bits. -/
  | invalidPort
  /-- The host ends in a number but is no IPv4 address. -/
  | invalidIpv4
  /-- The host stands in brackets but is no IPv6 address. -/
  | invalidIpv6
  /-- The host holds a character that no host may hold. -/
  | invalidHostCharacter
  /-- There is no scheme, so the text can only be understood relative to a URL. -/
  | missingScheme
  deriving DecidableEq, Repr

namespace Error

/-- The wording of a fault. -/
def message : Error → String
  | .emptyHost => "empty host"
  | .invalidDomain => "invalid international domain name"
  | .invalidPort => "invalid port number"
  | .invalidIpv4 => "invalid IPv4 address"
  | .invalidIpv6 => "invalid IPv6 address"
  | .invalidHostCharacter => "invalid domain character"
  | .missingScheme => "relative URL without a base"

/-- The name of a fault in a diagnosis. -/
def label : Error → String
  | .emptyHost => "EmptyHost"
  | .invalidDomain => "IdnaError"
  | .invalidPort => "InvalidPort"
  | .invalidIpv4 => "InvalidIpv4Address"
  | .invalidIpv6 => "InvalidIpv6Address"
  | .invalidHostCharacter => "InvalidDomainCharacter"
  | .missingScheme => "RelativeUrlWithoutBase"

end Error

end ReviewQuery.Url
