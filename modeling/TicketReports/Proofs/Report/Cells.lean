import TicketReports.Report.Cells

set_option autoImplicit false

namespace TicketReports

namespace Report

/-- What stands in a row under a column of its header. -/
def under (header row : List String) (column : String) : Option String :=
  (header.zip row).lookup column

/-- The row tells of the ticket, with a cell for every column. -/
structure Tells (header : List String) (ticket : Ticket) (row : List String) : Prop where
  complete : row.length = header.length
  kind : under header row "Type" = some ticket.kind.name
  channel : under header row "Channel" = some ticket.channelName
  number : under header row "Number" = some ticket.data.number
  description : under header row "Short description" = some ticket.data.description
  state : under header row "State" = some (toString ticket.data.state)
  location : under header row "Location" = some ticket.data.location
  createdAt : under header row "Created at" =
    some ((ticket.data.createdAt.map Timestamp.minuteText).getD "")

/-- It also says whose ticket this is. -/
structure TellsAssignee (header : List String) (ticket : Ticket) (row : List String) : Prop
    extends Tells header ticket row where
  engineer : under header row "Engineer" = some ticket.userName
  email : under header row "Email" = some ticket.userEmail
  organization : under header row "Organization" = some ticket.userOrganization

end Report

theorem Ticket.cells_tell (ticket : Ticket) :
    Report.Tells Report.ticketHeader ticket ticket.cells :=
  ⟨rfl, rfl, rfl, rfl, rfl, rfl, rfl, rfl⟩

theorem Ticket.fullCells_tell (ticket : Ticket) :
    Report.TellsAssignee Report.fullHeader ticket ticket.fullCells :=
  ⟨⟨rfl, rfl, rfl, rfl, rfl, rfl, rfl, rfl⟩, rfl, rfl, rfl⟩

end TicketReports
