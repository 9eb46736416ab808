set_option autoImplicit false

namespace TicketReports

/-- An activity that changes `S`, may fail with `ε`, and takes some of the time left. -/
abbrev Timed (ε S α : Type) := Nat → S → Except ε α × Nat × S

end TicketReports
