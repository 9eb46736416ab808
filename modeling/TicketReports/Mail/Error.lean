set_option autoImplicit false

namespace TicketReports

inductive MailError where
  | attachment (path reason : String)
  | request (reason : String)
  | rejected (status : Nat) (code : Int) (detail : String)
  | cancelled
  deriving DecidableEq, Repr

def MailError.message : MailError → String
  | .attachment path reason => "could not read attachment " ++ path ++ ": " ++ reason
  | .request reason => "email request failed: " ++ reason
  | .rejected status code detail =>
    "email server rejected the batch (" ++ toString status ++ "): error code " ++ toString code ++
      ": " ++ detail
  | .cancelled => "email sending cancelled"

end TicketReports
