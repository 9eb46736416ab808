import TicketReports.Sql.Address
import TicketReports.Sql.Statement

set_option autoImplicit false

namespace TicketReports.Sql

abbrev ResultRow := Column → Option Value

structure Result where
  rows : List ResultRow := []
  affected : Nat := 0

inductive Failure where
  | refused (code : String) (detail : String)
  | lost (detail : String)
  deriving DecidableEq, Repr

def uniqueViolation : String := "23505"

class Server (S : Type) where
  connect : S → Except Failure Unit × S
  execute : Query → S → Except Failure Result × S

structure NoServer where
  detail : String
  deriving DecidableEq, Repr

namespace NoServer

def communication (reason : String) : NoServer :=
  { detail := "error communicating with database: " ++ reason }

def behind (address : Address) : NoServer :=
  if address.socket.isSome then communication "No such file or directory (os error 2)"
  else if address.host = "localhost" ∨ Address.isNumeric address.bareHost then
    communication "Network is unreachable (os error 101)"
  else
    communication
      "failed to lookup address information: Temporary failure in name resolution"

end NoServer

instance : Server NoServer where
  connect s := (.error (.lost s.detail), s)
  execute _ s := (.error (.lost s.detail), s)

end TicketReports.Sql
