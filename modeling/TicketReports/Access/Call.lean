import TicketReports.Access.Request
import TicketReports.Access.Retry
import TicketReports.Access.StatusText

set_option autoImplicit false

namespace TicketReports

structure Endpoint where
  url : String
  policy : RetryPolicy
  timeout : Duration
  deriving DecidableEq

namespace Endpoint

def tenantHeader : String := "grpc-metadata-space"

def request (endpoint : Endpoint) (method : Method) (channel : String) (body : Option Json)
    (token : String) : Request :=
  { method
    url := endpoint.url
    headers :=
      ("authorization", "Bearer " ++ token) ::
        if channel = "" then [] else [(tenantHeader, channel)]
    body }

def unexpected (reply : Reply) : String :=
  "unexpected status " ++ statusText reply.status ++ ": " ++ reply.body.drain

inductive Trial (W : Type) where
  | ended (result : Except AccessError Reply) (left : Nat) (w : W)
  | again (left : Nat) (w : W)

variable {W : Type} [Network W]

def afterFailure (endpoint : Endpoint) (method : Method) (made : UInt32) (reason : String)
    (left : Nat) (w : W) : Trial W :=
  if endpoint.policy.allows made then
    let wait := (endpoint.policy.backoff (made - 1)).nanos
    if left ≤ wait then .ended (.error .cancelled) 0 w else .again (left - wait) w
  else .ended (.error (.gaveUp method endpoint.url made reason)) left w

def trial (endpoint : Endpoint) (method : Method) (channel : String) (body : Option Json)
    (made : UInt32) (left : Nat) (w : W) : Trial W :=
  match Network.token w with
  | (.error detail, w) => .ended (.error (.token detail)) left w
  | (.ok token, w) =>
    match (endpoint.request method channel body token).attempt endpoint.timeout left w with
    | (none, left, w) => .ended (.error .cancelled) left w
    | (some (.ok reply), left, w) =>
      if reply.status = 200 then .ended (.ok reply) left w
      else afterFailure endpoint method made (unexpected reply) left w
    | (some (.error reason), left, w) => afterFailure endpoint method made reason left w

-- Every attempt takes time, so the time left bounds the recursion.
def callFrom (endpoint : Endpoint) (method : Method) (channel : String) (body : Option Json)
    (made : UInt32) (left : Nat) (w : W) : Except AccessError Reply × Nat × W :=
  if left = 0 then (.error .cancelled, 0, w)
  else
    match trial endpoint method channel body (made + 1) left w with
    | .ended result left w => (result, left, w)
    | .again after w =>
      if after < left then callFrom endpoint method channel body (made + 1) after w
      else (.error .cancelled, 0, w)
termination_by left

def call (endpoint : Endpoint) (method : Method) (channel : String) (body : Option Json) :
    Timed AccessError W Reply :=
  callFrom endpoint method channel body 0

def get (endpoint : Endpoint) (channel : String) : Timed AccessError W Reply :=
  endpoint.call .get channel none

def query (endpoint : Endpoint) (channel : String) (body : Json) : Timed AccessError W Reply :=
  endpoint.call .query channel (some body)

end Endpoint

end TicketReports
