import TicketReports.Text.Percent
import TicketReports.Url.Domain
import TicketReports.Url.Escape
import TicketReports.Url.Flaw
import TicketReports.Url.Ipv4
import TicketReports.Url.Ipv6

set_option autoImplicit false

namespace TicketReports.Url

inductive Host where
  | name (text : String)
  | ipv4 (address : Nat)
  | ipv6 (pieces : List Nat)
  deriving DecidableEq, Repr

namespace Host

def absent : Host := .name ""

def text : Host → String
  | .name text => text
  | .ipv4 address => Ipv4.text address
  | .ipv6 pieces => "[" ++ Ipv6.text pieces ++ "]"

def readBracketed (rest : List Char) : Except Flaw Host :=
  match rest.reverse with
  | ']' :: inner =>
    match Ipv6.read? inner.reverse with
    | some pieces => .ok (.ipv6 pieces)
    | none => .error .ipv6
  | _ => .error .ipv6

def readPlain (text : List Char) : Except Flaw Host :=
  match text with
  | '[' :: rest => readBracketed rest
  | _ =>
    if text.any fun c => c.toNat = 0 || "\t\n\r #/:<>?@[\\]^|".toList.contains c then
      .error .hostCharacter
    else .ok (.name (String.ofList (escape isRaw text)))

def readInternet (text : List Char) : Except Flaw Host :=
  match text with
  | '[' :: rest => readBracketed rest
  | _ =>
    match Domain.read? (Text.percentDecode (Text.bytesOf (String.ofList text))) with
    | none => .error .domain
    | some [] => .error .emptyHost
    | some domain =>
      if Ipv4.claims domain then
        match Ipv4.read? domain with
        | some address => .ok (.ipv4 address)
        | none => .error .ipv4
      else .ok (.name (String.ofList domain))

end Host

end TicketReports.Url
