import TicketReports.Report.Cells
import TicketReports.Report.Error
import TicketReports.Snapshot

set_option autoImplicit false

namespace TicketReports

structure Workbook where
  sheet : String
  title : String
  header : List String
  rows : List (List String)
  deriving DecidableEq, Repr

namespace Workbook

def lines (workbook : Workbook) : List (List String) :=
  [workbook.title] :: workbook.header :: workbook.rows

def grid (workbook : Workbook) : List (List String) :=
  let width := workbook.lines.foldl (fun width line => max width line.length) 0
  workbook.lines.map fun line => line ++ List.replicate (width - line.length) ""

def boldLines : List Nat := [0, 1]

def cellLimit : Nat := 32767

def rowLimit : Nat := 1048576

def flaw? (workbook : Workbook) : Option WorkbookError :=
  let rec go (row : Nat) : List (List String) → Option WorkbookError
    | [] => none
    | line :: rest =>
      if rowLimit ≤ row then some .tooManyRows
      else if line.any fun cell => cellLimit < cell.length then some .textTooLong
      else go (row + 1) rest
  go 0 workbook.lines

end Workbook

namespace Report

def engineerWorkbook (snapshot : Snapshot) (email : String) : Workbook :=
  { sheet := "Tickets"
    title := "Tickets for " ++ email
    header := ticketHeader
    rows := (snapshot.ticketsOf email).map Ticket.cells }

def deskWorkbook (snapshot : Snapshot) : Workbook :=
  { sheet := "Open tickets"
    title := "Open tickets"
    header := fullHeader
    rows := snapshot.ticketsByChannel.map Ticket.fullCells }

end Report

end TicketReports
