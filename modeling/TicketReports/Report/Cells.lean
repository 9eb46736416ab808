import TicketReports.Ticket.Basic

set_option autoImplicit false

namespace TicketReports

namespace Report

def ticketHeader : List String :=
  ["Type", "Channel", "Number", "Short description", "State", "Location", "Created at"]

def assigneeHeader : List String := ["Engineer", "Email", "Organization"]

def fullHeader : List String := ticketHeader ++ assigneeHeader

end Report

namespace Ticket

def cells (ticket : Ticket) : List String :=
  [ticket.kind.name, ticket.channelName, ticket.data.number, ticket.data.description,
    toString ticket.data.state, ticket.data.location,
    (ticket.data.createdAt.map Timestamp.minuteText).getD ""]

def assigneeCells (ticket : Ticket) : List String :=
  [ticket.userName, ticket.userEmail, ticket.userOrganization]

def fullCells (ticket : Ticket) : List String := ticket.cells ++ ticket.assigneeCells

end Ticket

end TicketReports
