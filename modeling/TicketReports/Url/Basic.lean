import TicketReports.Url.Host

set_option autoImplicit false

namespace TicketReports

structure Url.Authority where
  username : String := ""
  password : Option String := none
  host : Url.Host := .absent
  port : Option Nat := none
  deriving DecidableEq, Repr

structure Url where
  scheme : String
  authority : Option Url.Authority
  path : String
  query : Option String := none
  fragment : Option String := none
  deriving DecidableEq, Repr

namespace Url

namespace Authority

def credentials (authority : Authority) : String :=
  match authority.username, authority.password with
  | "", none => ""
  | username, none => username ++ "@"
  | username, some password => username ++ ":" ++ password ++ "@"

def text (authority : Authority) : String :=
  authority.credentials ++ authority.host.text ++
    match authority.port with
    | some port => ":" ++ toString port
    | none => ""

end Authority

def marked (mark : String) : Option String → String
  | some part => mark ++ part
  | none => ""

-- Without an authority, a path that begins with two slashes has a dot set before it, so that it is
-- not taken for one.
def text (url : Url) : String :=
  url.scheme ++ ":" ++
    (match url.authority with
      | some authority => "//" ++ authority.text
      | none => if "//".toList.isPrefixOf url.path.toList then "/." else "") ++
    url.path ++ marked "?" url.query ++ marked "#" url.fragment

def host? (url : Url) : Option Host :=
  (url.authority.map Authority.host).filter (· ≠ .absent)

end Url

end TicketReports
