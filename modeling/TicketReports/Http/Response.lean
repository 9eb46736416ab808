import TicketReports.Json.Basic

set_option autoImplicit false

namespace TicketReports.Http

inductive Content where
  | empty
  | text (value : String)
  | json (value : Json)
  deriving Repr

structure Response where
  status : Nat
  contentType : Option String := none
  location : Option String := none
  retryAfter : Option Nat := none
  allow : Option String := none
  content : Content := .empty
  deriving Repr

namespace Response

def json (status : Nat) (value : Json) : Response :=
  { status, contentType := some "application/json", content := .json value }

def error (status : Nat) (reason : String) : Response :=
  json status (.record [("error", .ofText reason)])

def plain (status : Nat) (reason : String) : Response :=
  { status, contentType := some "text/plain; charset=utf-8", content := .text reason }

def headersOnly (response : Response) : Response := { response with content := .empty }

end Response

end TicketReports.Http
