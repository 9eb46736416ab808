import TicketReports.Json.Basic
import TicketReports.Mail.Error
import TicketReports.Job.Kind
import TicketReports.Mail.Html
import TicketReports.Report.Folder

set_option autoImplicit false

namespace TicketReports

structure Attachment where
  name : String
  content : File
  deriving DecidableEq, Repr

structure Message where
  sender : String
  recipient : String
  subject : String
  html : String
  stream : String
  attachment : Attachment
  deriving DecidableEq, Repr

namespace Workbook

def toJson (workbook : Workbook) : Json :=
  .record
    [("sheet", .array [.ofText workbook.sheet]),
      ("rows", .array (workbook.lines.map fun line => .array (line.map Json.ofText))),
      ("bold_rows", .array (boldLines.map fun n : Nat => .ofInt n))]

end Workbook

namespace File

-- Stands for the encoded file.
def toJson : File → Json
  | .workbook held => held.toJson
  | .text value => .ofText value
  | .directory => .null

end File

namespace Attachment

def contentType : String := "application/vnd.openxmlformats-officedocument.spreadsheetml.sheet"

def toJson (attachment : Attachment) : Json :=
  .record
    [("Name", .ofText attachment.name), ("Content", attachment.content.toJson),
      ("ContentType", .ofText contentType)]

end Attachment

namespace Message

def toJson (message : Message) : Json :=
  .record
    ([("From", .ofText message.sender), ("To", .ofText message.recipient),
        ("Subject", .ofText message.subject), ("HtmlBody", .ofText message.html),
        ("TextBody", .ofText message.subject)] ++
      (if message.stream = "" then [] else [("MessageStream", .ofText message.stream)]) ++
      [("Attachments", .array [message.attachment.toJson])])

end Message

structure MailSettings where
  url : String
  token : Option String
  stream : String
  sender : String
  serviceDesk : List String
  deriving DecidableEq, Repr

namespace Mail

def attach (dir name : String) (folder : Folder) : Except MailError Attachment :=
  match folder.read dir name with
  | .error error => .error (.attachment (Report.joinPath dir name) error.message)
  | .ok content => .ok { name, content }

def engineerBody (snapshot : Snapshot) (address : String) : String :=
  Html.body "Hi, below are open tickets currently assigned to you." Report.ticketHeader
    ((snapshot.ticketsOf address).map Ticket.cells)

def deskBody (snapshot : Snapshot) : String :=
  Html.body "Hi, below are all open tickets." Report.fullHeader
    (snapshot.tickets.map Ticket.fullCells)

def engineerMessage (mail : MailSettings) (dir : String) (snapshot : Snapshot) (folder : Folder)
    (address : String) : Except MailError Message := do
  let attachment ← attach dir (Report.engineerFile address) folder
  .ok
    { sender := mail.sender
      recipient := address
      subject := "Open tickets assigned to " ++ address
      html := engineerBody snapshot address
      stream := mail.stream
      attachment }

def engineerMessages (mail : MailSettings) (dir : String) (snapshot : Snapshot) (folder : Folder) :
    Except MailError (List Message) :=
  snapshot.emails.mapM (engineerMessage mail dir snapshot folder)

def deskMessages (mail : MailSettings) (dir : String) (snapshot : Snapshot) (folder : Folder) :
    Except MailError (List Message) :=
  if mail.serviceDesk.isEmpty then .ok []
  else do
    let attachment ← attach dir Report.serviceDeskFile folder
    .ok (mail.serviceDesk.map fun recipient =>
      { sender := mail.sender
        recipient
        subject := "Open tickets of all channels"
        html := deskBody snapshot
        stream := mail.stream
        attachment })

def messages (mail : MailSettings) (dir : String) (audience : Audience) (snapshot : Snapshot)
    (folder : Folder) : Except MailError (List Message) :=
  match audience with
  | .fieldEngineers => engineerMessages mail dir snapshot folder
  | .serviceDesk => deskMessages mail dir snapshot folder

end Mail

end TicketReports
