set_option autoImplicit false

namespace TicketReports

inductive Method where
  | get
  | query
  | post
  deriving DecidableEq, Repr

def Method.name : Method → String
  | .get => "GET"
  | .query => "OPTIONS"
  | .post => "POST"

inductive AccessError where
  | token (detail : String)
  | build (detail : String)
  | cancelled
  | gaveUp (method : Method) (url : String) (attempts : UInt32) (reason : String)
  deriving DecidableEq, Repr

def AccessError.message : AccessError → String
  | .token detail => "could not obtain auth token: " ++ detail
  | .build detail => "could not build HTTP client: " ++ detail
  | .cancelled => "request cancelled"
  | .gaveUp method url attempts reason =>
    method.name ++ " " ++ url ++ " giving up after " ++ toString attempts.toNat ++
      " attempt(s): " ++ reason

end TicketReports
