import TicketReports.Json.Basic

set_option autoImplicit false

namespace TicketReports

structure Channel where
  id : String
  name : String
  deriving DecidableEq, Repr

namespace Channel

def fieldNames : List String := ["channel_id", "name"]

def ofJson? (value : Json) : Option Channel := do
  match ← value.slots? fieldNames with
  | [id, name] => some { id := ← id.required Json.text?, name := ← name.required Json.text? }
  | _ => none

def toJson (channel : Channel) : Json :=
  .record [("channel_id", .ofText channel.id), ("name", .ofText channel.name)]

end Channel

end TicketReports
