set_option autoImplicit false

namespace TicketReports.Report

def isPlain (c : Char) : Bool :=
  c.isAlphanum || c == '@' || c == '.' || c == '_' || c == '-' || c == '+'

def sanitized (email : List Char) : List Char := email.map fun c => if isPlain c then c else '_'

def extension : List Char := ".xlsx".toList

def engineerFile (email : String) : String := String.ofList (sanitized email.toList ++ extension)

def serviceDeskFile : String := "service-desk.xlsx"

def joinPath (dir name : String) : String :=
  if dir = "" ∨ dir.toList.getLast? = some '/' then dir ++ name else dir ++ "/" ++ name

end TicketReports.Report
