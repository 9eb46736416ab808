set_option autoImplicit false

namespace TicketReports.Url

inductive Flaw where
  | relative
  | emptyHost
  | domain
  | hostCharacter
  | ipv4
  | ipv6
  | port
  deriving DecidableEq, Repr

def Flaw.message : Flaw → String
  | .relative => "relative URL without a base"
  | .emptyHost => "empty host"
  | .domain => "invalid international domain name"
  | .hostCharacter => "invalid domain character"
  | .ipv4 => "invalid IPv4 address"
  | .ipv6 => "invalid IPv6 address"
  | .port => "invalid port number"

end TicketReports.Url
