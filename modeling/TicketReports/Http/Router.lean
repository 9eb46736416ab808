import TicketReports.Job.Record
import TicketReports.Http.JobBody
import TicketReports.Http.Refusal
import TicketReports.Http.Request
import TicketReports.Access.Request
import TicketReports.Service.Basic
import TicketReports.Service.Submission
import TicketReports.Text.Percent

set_option autoImplicit false

namespace TicketReports.Http

inductive Route where
  | health
  | metrics
  | jobs
  | job (id : String)
  | unknown
  deriving DecidableEq, Repr

namespace Route

def jobsPath : List Char := "/jobs".toList

def ofPath (path : String) : Route :=
  if path = "/health" then .health
  else if path = "/metrics" then .metrics
  else if path = "/jobs" then .jobs
  else
    let chars := path.toList
    match chars.drop jobsPath.length with
    | '/' :: id =>
      if chars.take jobsPath.length = jobsPath ∧ id ≠ [] ∧ '/' ∉ id then .job (String.ofList id)
      else .unknown
    | _ => .unknown

def allowed : Route → String
  | .jobs => "POST,GET,HEAD"
  | _ => "GET,HEAD"

end Route

def metricsType : String := "text/plain; version=0.0.4"

def pageOf (query : String) : Except Response (Option String) :=
  match (Text.formPairs query).filter fun pair => pair.1 == "page" with
  | [] => .ok none
  | [pair] => .ok (some pair.2)
  | _ => .error (.plain 400 "Failed to deserialize query string: duplicate field \x60page\x60")

variable {σ W : Type} [JobStore σ]

def stored {α : Type} (service : Service σ W) (call : StoreAnswer σ α) (encode : α → Json) :
    Response × Service σ W :=
  let (result, store) := call
  let service := { service with processor := { service.processor with store } }
  match result with
  | .ok value => (.json 200 (encode value), service)
  | .error error => (error.response, service)

def listJobs (query : String) (service : Service σ W) : Response × Service σ W :=
  match pageOf query with
  | .error refusal => (refusal, service)
  | .ok text =>
    match Page.read text with
    | .error reason => (.error 400 reason, service)
    | .ok number =>
      stored service (JobStore.listPage number service.processor.store) fun jobs =>
        .array (jobs.map Job.toJson)

def showJob (id : String) (service : Service σ W) : Response × Service σ W :=
  match Text.pathPart? id with
  | none => (.plain 400 "Invalid URL: Invalid UTF-8 in \x60id\x60", service)
  | some text =>
    match JobId.read text with
    | .error error => (error.response, service)
    | .ok id => stored service (JobStore.get id service.processor.store) Job.toJson

def created (address : String) (id : JobId) : Response :=
  let location := address ++ "/jobs/" ++ id.text
  if isHeaderText location then { status := 201, location := some location }
  else .plain 201 "failed to parse header value"

def verdict (address : String) : Submission → Response
  | .ended (.created id) => created address id
  | .ended (.refused _ error) => busy error.message
  | .ended (.failed error) => error.response
  | _ => { status := 500 }

def requestedKind (call : Call) : Except Response JobKind :=
  match JobBody.read call.contentType call.body with
  | .error error => .error (.error 400 error.message)
  | .ok text => (JobKind.read text).mapError DomainError.response

def createJob (call : Call) (fresh : JobId) (now : Timestamp) (service : Service σ W) :
    Response × Service σ W :=
  match requestedKind call with
  | .error refusal => (refusal, service)
  | .ok kind =>
    let (submission, processor, _) :=
      Submission.run fresh now Submission.stepCount (.storing kind) service.processor
    (verdict service.address submission, { service with processor })

def show? (call : Call) (route : Route) (service : Service σ W) :
    Option (Response × Service σ W) :=
  match route with
  | .health => some ({ status := 200 }, service)
  | .metrics =>
    some
      ({ status := 200, contentType := some metricsType
         content := .text service.processor.counters.render }, service)
  | .jobs => some (listJobs call.query service)
  | .job id => some (showJob id service)
  | .unknown => none

/-- Answers a request. `fresh` is the id of a job that it may store. -/
def respond (call : Call) (fresh : JobId) (now : Timestamp) (service : Service σ W) :
    Response × Service σ W :=
  let route := Route.ofPath call.path
  if route = .jobs ∧ call.method = "POST" then createJob call fresh now service
  else
    match show? call route service with
    | none => (notFound, service)
    | some (response, after) =>
      if call.method = "GET" then (response, after)
      else if call.method = "HEAD" then (response.headersOnly, after)
      else ({ status := 405, allow := some route.allowed }, service)

end TicketReports.Http
