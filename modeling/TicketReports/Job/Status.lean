import TicketReports.Job.Error

set_option autoImplicit false

namespace TicketReports

inductive FinalStatus where
  | success
  | error (detail : String)
  deriving DecidableEq, Repr

namespace FinalStatus

def isSuccess : FinalStatus → Bool
  | .success => true
  | .error _ => false

def text : FinalStatus → String
  | .success => "Success"
  | .error detail => "Error: " ++ detail

def errorMark : List Char := "Error: ".toList

def readChars (text : List Char) : Option FinalStatus :=
  if text = "Success".toList then some .success
  else if text.take errorMark.length = errorMark then
    some (.error (String.ofList (text.drop errorMark.length)))
  else none

def read (text : String) : Except DomainError FinalStatus :=
  match readChars text.toList with
  | some status => .ok status
  | none => .error (.validation ("unknown final status '" ++ text ++ "'"))

end FinalStatus

end TicketReports
