set_option autoImplicit false

namespace TicketReports

inductive DomainError where
  | validation (detail : String)
  | invariant (detail : String)
  | invalidId (detail : String)
  | notFound
  deriving DecidableEq, Repr

def DomainError.message : DomainError → String
  | .validation detail => "validation failed: " ++ detail
  | .invariant detail => "invariant violated: " ++ detail
  | .invalidId detail => "invalid identifier: " ++ detail
  | .notFound => "not found"

end TicketReports
