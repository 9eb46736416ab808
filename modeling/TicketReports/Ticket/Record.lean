import TicketReports.Json.Basic
import TicketReports.Ticket.Basic

set_option autoImplicit false

namespace TicketReports

namespace TicketKind

def ofJson? : Json → Option TicketKind := Json.variant? ofName?

def toJson (kind : TicketKind) : Json := .ofText kind.name

end TicketKind

namespace Timestamp

def ofJson? (value : Json) : Option Timestamp := value.text?.bind read?

def toJson (t : Timestamp) : Json := .ofText (t.rfc3339With "Z")

end Timestamp

namespace TicketData

def fieldNames : List String :=
  ["number", "short_description", "state_id", "location", "created_at"]

def ofJson? (value : Json) : Option TicketData := do
  match ← value.slots? fieldNames with
  | [number, description, state, location, createdAt] =>
    some
      { number := ← number.required Json.text?
        description := ← description.required Json.text?
        state := ← state.required Json.int32?
        location := ← location.required Json.text?
        createdAt := ← createdAt.optional Timestamp.ofJson? }
  | _ => none

def toJson (data : TicketData) : Json :=
  .record
    [("number", .ofText data.number), ("short_description", .ofText data.description),
      ("state_id", .ofInt data.state), ("location", .ofText data.location),
      ("created_at", match data.createdAt with | some t => t.toJson | none => .null)]

end TicketData

namespace Ticket

def fieldNames : List String :=
  ["kind", "channel_id", "channel_name", "user_id", "user_name", "user_email", "user_org_name",
    "data"]

def ofJson? (value : Json) : Option Ticket := do
  match ← value.slots? fieldNames with
  | [kind, channelId, channelName, userId, userName, userEmail, userOrganization, data] =>
    some
      { kind := ← kind.required TicketKind.ofJson?
        channelId := ← channelId.required Json.text?
        channelName := ← channelName.required Json.text?
        userId := ← userId.required Json.text?
        userName := ← userName.required Json.text?
        userEmail := ← userEmail.required Json.text?
        userOrganization := ← userOrganization.required Json.text?
        data := ← data.required TicketData.ofJson? }
  | _ => none

def toJson (ticket : Ticket) : Json :=
  .record
    [("kind", ticket.kind.toJson), ("channel_id", .ofText ticket.channelId),
      ("channel_name", .ofText ticket.channelName), ("user_id", .ofText ticket.userId),
      ("user_name", .ofText ticket.userName), ("user_email", .ofText ticket.userEmail),
      ("user_org_name", .ofText ticket.userOrganization), ("data", ticket.data.toJson)]

end Ticket

end TicketReports
