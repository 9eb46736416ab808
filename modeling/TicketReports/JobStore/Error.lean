import TicketReports.Job.Id

set_option autoImplicit false

namespace TicketReports

inductive StoreError where
  | notFound (id : JobId)
  | empty
  | domain (error : DomainError)
  | storage (detail : String)
  deriving DecidableEq, Repr

def StoreError.message : StoreError → String
  | .notFound id => "job not found: " ++ id.text
  | .empty => "no jobs in queue"
  | .domain error => error.message
  | .storage detail => "storage error: " ++ detail

end TicketReports
