set_option autoImplicit false

namespace TicketReports

def staticToken (token : Option String) : Except String String :=
  match token with
  | some token => if token = "" then .error "no ITSM auth token configured" else .ok token
  | none => .error "no ITSM auth token configured"

end TicketReports
