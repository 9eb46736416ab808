import TicketReports.Job.Basic
import TicketReports.Json.Basic

set_option autoImplicit false

namespace TicketReports

namespace JobKind

def ofJson? : Json → Option JobKind := Json.variant? ofName?

def toJson (kind : JobKind) : Json := .ofText kind.name

end JobKind

namespace JobId

def ofJson? (value : Json) : Option JobId := value.text?.bind fun text => (read text).toOption

def toJson (id : JobId) : Json := .ofText id.text

end JobId

namespace Phase

def startedKey (phase : Phase) : String := phase.name ++ "_started_at"

def finishedKey (phase : Phase) : String := phase.name ++ "_finished_at"

end Phase

namespace Job

def stampFields (job : Job) (phase : Phase) : List (String × String) :=
  let stamps := job.progress.get phase
  (stamps.started.map fun t => (phase.startedKey, t.rfc3339)).toList ++
    (stamps.finished.map fun t => (phase.finishedKey, t.rfc3339)).toList

def fields (job : Job) : List (String × String) :=
  (job.id.map fun id => ("uuid", id.text)).toList ++
    [("type", job.kind.name), ("created_at", job.createdAt.rfc3339)] ++
    Phase.all.flatMap job.stampFields ++
    (job.outcome.map fun status => ("final_status", status.text)).toList

def toJson (job : Job) : Json := .record (job.fields.map fun (name, text) => (name, .ofText text))

end Job

end TicketReports
