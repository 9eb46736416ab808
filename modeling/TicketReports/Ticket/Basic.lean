import TicketReports.Directory.User
import TicketReports.Time.Timestamp

set_option autoImplicit false

namespace TicketReports

inductive TicketKind where
  | incident
  | request
  deriving DecidableEq, Repr

namespace TicketKind

def all : List TicketKind := [.incident, .request]

def name : TicketKind → String
  | .incident => "incident"
  | .request => "request"

def rank : TicketKind → Nat
  | .incident => 0
  | .request => 1

def ofName? (text : String) : Option TicketKind := all.find? fun kind => kind.name == text

end TicketKind

structure TicketData where
  number : String
  description : String
  state : Int
  location : String
  createdAt : Option Timestamp
  deriving DecidableEq, Repr

structure Ticket where
  kind : TicketKind
  channelId : String
  channelName : String
  userId : String
  userName : String := ""
  userEmail : String := ""
  userOrganization : String := ""
  data : TicketData
  deriving DecidableEq, Repr

namespace Ticket

def assignTo (ticket : Ticket) (user : User) : Ticket :=
  { ticket with
    userName := user.name
    userEmail := user.email
    userOrganization := user.organization }

def isAssigned (ticket : Ticket) : Bool := ticket.userEmail != ""

end Ticket

end TicketReports
