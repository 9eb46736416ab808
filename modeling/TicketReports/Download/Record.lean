import TicketReports.Directory.Channel
import TicketReports.Json.Reader
import TicketReports.Ticket.Record

set_option autoImplicit false

namespace TicketReports

structure ResultPage (α : Type) where
  bookmark : Option String := none
  records : List α := []
  deriving DecidableEq, Repr

namespace ResultPage

def fullSize : Nat := 10

def isLast {α : Type} (page : ResultPage α) : Bool := page.records.length < fullSize

def ofJson? {α : Type} (record : Json → Option α) (value : Json) : Option (ResultPage α) := do
  match ← value.slots? ["bookmark", "result"] with
  | [bookmark, result] =>
    some
      { bookmark := ← bookmark.lenient Json.text?
        records := ← result.defaulting [] (Json.list? record) }
  | _ => none

end ResultPage

structure UserRecord where
  id : Option String := none
  name : Option String := none
  email : Option String := none
  kind : Option String := none
  organization : Option String := none
  deriving DecidableEq, Repr

namespace UserRecord

def ofJson? (value : Json) : Option UserRecord := do
  match ← value.slots? ["uuid", "full_name", "email", "type", "org_display_name"] with
  | [id, name, email, kind, organization] =>
    some
      { id := ← id.lenient Json.text?
        name := ← name.lenient Json.text?
        email := ← email.lenient Json.text?
        kind := ← kind.lenient Json.text?
        organization := ← organization.lenient Json.text? }
  | _ => none

def toUser (record : UserRecord) (channelId : String) : User :=
  { channelId
    id := record.id.getD ""
    email := record.email.getD ""
    name := record.name.getD ""
    organization := record.organization.getD ""
    kind := record.kind.getD "" }

end UserRecord

structure TicketRecord where
  number : String
  description : Option String := none
  state : Option Int := none
  location : Option String := none
  createdAt : Option String := none
  assignee : Option String := none
  deriving DecidableEq, Repr

namespace TicketRecord

def ofJson? (value : Json) : Option TicketRecord := do
  match ← value.slots?
      ["number", "short_description", "state_id", "location", "created_at", "assigned_to"] with
  | [number, description, state, location, createdAt, assignee] =>
    some
      { number := ← number.required Json.text?
        description := ← description.lenient Json.text?
        state := ← state.lenient Json.int32?
        location := ← location.lenient Json.text?
        createdAt := ← createdAt.lenient Json.text?
        assignee := ← assignee.lenient Json.text? }
  | _ => none

def toTicket (record : TicketRecord) (kind : TicketKind) (channel : Channel) : Ticket :=
  { kind
    channelId := channel.id
    channelName := channel.name
    userId := record.assignee.getD ""
    data :=
      { number := record.number
        description := record.description.getD ""
        state := record.state.getD 0
        location := record.location.getD ""
        createdAt := record.createdAt.bind Timestamp.read? } }

end TicketRecord

namespace Channel

def ofRecord? (value : Json) : Option Channel := do
  match ← value.slots? ["space", "name"] with
  | [space, name] =>
    some { id := ← space.required Json.text?, name := (← name.lenient Json.text?).getD "" }
  | _ => none

def listOfJson? (value : Json) : Option (List Channel) := do
  match ← value.slots? ["spaces"] with
  | [spaces] => spaces.defaulting [] (Json.list? ofRecord?)
  | _ => none

end Channel

end TicketReports
