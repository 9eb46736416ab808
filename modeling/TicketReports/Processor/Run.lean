import TicketReports.Pipeline.Plan
import TicketReports.Text.Quoted

set_option autoImplicit false

namespace TicketReports

structure Run where
  id : JobId
  number : Nat
  -- In nanoseconds.
  left : Nat
  todo : List Action
  closing : Bool := false
  deriving DecidableEq, Repr

namespace Run

def begin (id : JobId) (number left : Nat) (kind : JobKind) : Run :=
  { id, number, left, todo := Action.plan kind }

def close (run : Run) (status : FinalStatus) : Run :=
  { run with todo := [.record (.close status)], closing := true }

def cancel (run : Run) : Run := { run with left := 0 }

def aborted (run : Run) (detail : String) : FinalStatus :=
  .error ("job run aborted: task " ++ toString run.number ++ " panicked with message " ++
    Text.quoted detail)

end Run

end TicketReports
