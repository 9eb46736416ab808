set_option autoImplicit false

namespace TicketReports

def Duration.limit : Nat := (UInt64.size - 1) * 1000000000 + 999999999

structure Duration where
  nanos : Nat
  nanos_le : nanos ≤ Duration.limit
  deriving DecidableEq

namespace Duration

def ofNanos (nanos : Nat) : Duration := ⟨min nanos limit, Nat.min_le_right _ _⟩

def ofMillis (millis : Nat) : Duration := ofNanos (millis * 1000000)

def ofSeconds (seconds : Nat) : Duration := ofNanos (seconds * 1000000000)

def millis (d : Duration) : Nat := d.nanos / 1000000

instance : Min Duration where
  min a b := if a.nanos ≤ b.nanos then a else b

def times? (d : Duration) (factor : Nat) : Option Duration :=
  if fits : d.nanos * factor ≤ limit then some ⟨d.nanos * factor, fits⟩ else none

@[simp] theorem nanos_min (a b : Duration) : (min a b).nanos = min a.nanos b.nanos := by
  show (if a.nanos ≤ b.nanos then a else b).nanos = _
  split <;> omega

end Duration

end TicketReports
