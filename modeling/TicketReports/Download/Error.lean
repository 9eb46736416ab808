import TicketReports.Access.Error

set_option autoImplicit false

namespace TicketReports

inductive Download where
  | channels
  | users
  | incidents
  | requests
  deriving DecidableEq, Repr

def Download.name : Download → String
  | .channels => "channels"
  | .users => "users"
  | .incidents => "incidents"
  | .requests => "requests"

inductive DownloadError where
  | access (what : Download) (error : AccessError)
  | undecodable (what : Download)
  deriving DecidableEq, Repr

def DownloadError.message : DownloadError → String
  | .access what error => "could not retrieve " ++ what.name ++ ": " ++ error.message
  | .undecodable what =>
    "could not decode " ++ what.name ++ " response: error decoding response body"

end TicketReports
