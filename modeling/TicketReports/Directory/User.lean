import TicketReports.Json.Basic
import TicketReports.Text.Blank

set_option autoImplicit false

namespace TicketReports

structure User where
  channelId : String
  id : String
  email : String
  name : String
  organization : String
  kind : String
  deriving DecidableEq, Repr

namespace User

def hasEmail (user : User) : Bool := !Text.allBlank user.email

def fieldNames : List String := ["channel_id", "user_id", "email", "name", "org_name", "kind"]

def ofJson? (value : Json) : Option User := do
  match ← value.slots? fieldNames with
  | [channelId, id, email, name, organization, kind] =>
    some
      { channelId := ← channelId.required Json.text?
        id := ← id.required Json.text?
        email := ← email.required Json.text?
        name := ← name.required Json.text?
        organization := ← organization.required Json.text?
        kind := ← kind.required Json.text? }
  | _ => none

def toJson (user : User) : Json :=
  .record
    [("channel_id", .ofText user.channelId), ("user_id", .ofText user.id),
      ("email", .ofText user.email), ("name", .ofText user.name),
      ("org_name", .ofText user.organization), ("kind", .ofText user.kind)]

end User

end TicketReports
