import TicketReports.Directory.Channel
import TicketReports.Ticket.Basic

set_option autoImplicit false

namespace TicketReports

def insertDistinct (text : String) : List String → List String
  | [] => [text]
  | head :: rest =>
    if text < head then text :: head :: rest
    else if text = head then head :: rest
    else head :: insertDistinct text rest

def distinct (texts : List String) : List String := texts.foldr insertDistinct []

structure Snapshot where
  channels : List Channel := []
  users : List User := []
  tickets : List Ticket := []
  deriving DecidableEq, Repr

namespace Snapshot

def setChannels (snapshot : Snapshot) (channels : List Channel) : Snapshot :=
  { snapshot with channels }

def addUsers (snapshot : Snapshot) (users : List User) : Snapshot :=
  { snapshot with users := snapshot.users ++ users }

def addTickets (snapshot : Snapshot) (tickets : List Ticket) : Snapshot :=
  { snapshot with tickets := snapshot.tickets ++ tickets }

def forgetUsers (snapshot : Snapshot) : Snapshot := { snapshot with users := [] }

def forgetTickets (snapshot : Snapshot) : Snapshot := { snapshot with tickets := [] }

def user? (snapshot : Snapshot) (channelId id : String) : Option User :=
  snapshot.users.find? fun user => user.channelId == channelId && user.id == id

def byKind (tickets : List Ticket) : List Ticket :=
  TicketKind.all.flatMap fun kind => tickets.filter fun ticket => ticket.kind == kind

def emails (snapshot : Snapshot) : List String :=
  distinct ((snapshot.tickets.filter Ticket.isAssigned).map Ticket.userEmail)

def channelIds (snapshot : Snapshot) : List String :=
  distinct (snapshot.tickets.map Ticket.channelId)

def ticketsOf (snapshot : Snapshot) (email : String) : List Ticket :=
  byKind (snapshot.tickets.filter fun ticket => ticket.userEmail == email)

def ticketsIn (snapshot : Snapshot) (channelId : String) : List Ticket :=
  let tickets := snapshot.tickets.filter fun ticket => ticket.channelId == channelId
  (distinct (tickets.map Ticket.userEmail)).flatMap fun email =>
    byKind (tickets.filter fun ticket => ticket.userEmail == email)

def ticketsByChannel (snapshot : Snapshot) : List Ticket :=
  snapshot.channelIds.flatMap snapshot.ticketsIn

end Snapshot

end TicketReports
