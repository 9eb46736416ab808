import TicketReports.Json.Basic

set_option autoImplicit false

namespace TicketReports.Query

def texts (values : List String) : Json := .array (values.map Json.ofText)

def users (bookmark : String) : Json :=
  .record
    [("fields", texts ["uuid", "full_name", "email", "type", "org_display_name"]),
      ("bookmark", .ofText bookmark)]

-- Resolved, closed and cancelled.
def closedStates : List Int := [4, 5, 6]

def stateIsNot (state : Int) : Json :=
  .record [("state_id", .record [("$ne", .ofInt state)])]

def tickets (bookmark : String) : Json :=
  .record
    [("selector", .record [("$and", .array (closedStates.map stateIsNot))]),
      ("fields",
        texts
          ["uuid", "number", "short_description", "state_id", "location", "created_at",
            "assigned_to"]),
      ("bookmark", .ofText bookmark)]

end TicketReports.Query
