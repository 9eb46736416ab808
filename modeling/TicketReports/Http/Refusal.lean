import TicketReports.Http.Response
import TicketReports.JobStore.Error

set_option autoImplicit false

namespace TicketReports.Http

def retryAfterSeconds : Nat := 600

def busy (reason : String) : Response :=
  { Response.error 429 reason with retryAfter := some retryAfterSeconds }

def notFound : Response := .error 404 "404 page not found"

end TicketReports.Http

namespace TicketReports

def DomainError.response : DomainError → Http.Response
  | .validation detail => .error 400 detail
  | .invalidId detail => .error 400 detail
  | .notFound => .error 404 DomainError.notFound.message
  | .invariant detail => .error 500 (DomainError.invariant detail).message

def StoreError.response : StoreError → Http.Response
  | .notFound id => .error 404 (StoreError.notFound id).message
  | .domain error => error.response
  | .empty => .error 500 StoreError.empty.message
  | .storage detail => .error 500 (StoreError.storage detail).message

end TicketReports
