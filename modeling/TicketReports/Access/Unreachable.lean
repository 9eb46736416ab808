import TicketReports.Access.Request
import TicketReports.Access.Token

set_option autoImplicit false

namespace TicketReports

structure Unreachable where
  token : Option String
  deriving DecidableEq, Repr

instance : Network Unreachable where
  token w := (staticToken w.token, w)
  send _ w := ({ took := 0, reply := none }, w)

end TicketReports
