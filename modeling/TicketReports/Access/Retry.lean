import TicketReports.Time.Duration

set_option autoImplicit false

namespace TicketReports

structure RetryPolicy where
  waitMin : Duration
  waitMax : Duration
  maxRetries : UInt32
  deriving DecidableEq

namespace RetryPolicy

def standard : RetryPolicy :=
  { waitMin := .ofSeconds 1, waitMax := .ofSeconds 30, maxRetries := 5 }

def once : RetryPolicy := { standard with maxRetries := 0 }

def factor (n : UInt32) : Nat := if n.toNat < 32 then 1 <<< n.toNat else UInt32.size - 1

def backoff (policy : RetryPolicy) (n : UInt32) : Duration :=
  min ((policy.waitMin.times? (factor n)).getD policy.waitMax) policy.waitMax

def allows (policy : RetryPolicy) (attempts : UInt32) : Bool := attempts ≤ policy.maxRetries

end RetryPolicy

end TicketReports
