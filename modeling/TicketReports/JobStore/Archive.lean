import TicketReports.JobStore.Basic
import TicketReports.JobStore.Row

set_option autoImplicit false

namespace TicketReports

structure Archive (S : Type) where
  server : S
  closed : Bool := false

namespace Archive

open Sql

def storeError (call : String) : Failure → StoreError
  | .refused code detail =>
    let message := "database error in " ++ call ++ ": " ++ detail
    if code = uniqueViolation then .domain (.invariant message) else .storage message
  | .lost detail => .storage ("sqlx error in " ++ call ++ ": " ++ detail)

-- What an offset is to the server: the same 64 bits, read with a sign.
def signed (word : UInt64) : Int64 := word.toInt64

variable {S α : Type} [Server S]

def execute (call : String) (query : Query) (archive : Archive S) :
    StoreAnswer (Archive S) Result :=
  if archive.closed then (.error (.storage ("connection pool closed in " ++ call)), archive)
  else
    let (result, server) := Server.execute query archive.server
    (result.mapError (storeError call), { archive with server })

def ensureTable (archive : Archive S) : StoreAnswer (Archive S) Unit :=
  let (result, archive) := archive.execute "ensure_schema" { statement := .createTable }
  (result.map fun _ => (), archive)

def connect (server : S) : StoreAnswer (Archive S) Unit :=
  match Server.connect server with
  | (.error failure, server) => (.error (storeError "connect" failure), { server })
  | (.ok (), server) => ensureTable { server }

def firstJob (otherwise : StoreError) (result : Except StoreError Result) : Except StoreError Job :=
  match result with
  | .error error => .error error
  | .ok result =>
    match result.rows with
    | row :: _ => JobRow.read row
    | [] => .error otherwise

def everyJob (result : Except StoreError Result) : Except StoreError (List Job) :=
  match result with
  | .error error => .error error
  | .ok result => result.rows.mapM JobRow.read

def add (fresh : JobId) (job : Job) (archive : Archive S) : StoreAnswer (Archive S) JobId :=
  match job.assignId fresh with
  | .error error => (.error (.domain error), archive)
  | .ok job =>
    let (result, archive) := archive.execute "add_job" (JobRow.insertion fresh job)
    (result.map fun _ => fresh, archive)

def update (job : Job) (archive : Archive S) : StoreAnswer (Archive S) Unit :=
  match job.id with
  | none => (.error JobStore.unsaved, archive)
  | some id =>
    let (result, archive) := archive.execute "update_job" (JobRow.change id job)
    match result with
    | .error error => (.error error, archive)
    | .ok result => (if result.affected = 0 then .error (.notFound id) else .ok (), archive)

def get (id : JobId) (archive : Archive S) : StoreAnswer (Archive S) Job :=
  let (result, archive) := archive.execute "get_job"
    { statement := .select .byId .unordered .unlimited, parameters := [.id id] }
  (firstJob (.notFound id) result, archive)

def last (archive : Archive S) : StoreAnswer (Archive S) Job :=
  let (result, archive) := archive.execute "get_last_job"
    { statement := .select .everything .newestFirst .first }
  (firstJob .empty result, archive)

def running (archive : Archive S) : StoreAnswer (Archive S) (List Job) :=
  let (result, archive) := archive.execute "running_jobs"
    { statement := .select .unfinished .oldestFirst .unlimited }
  (everyJob result, archive)

def window (page : Page) : List Value :=
  [.integer (Int64.ofInt page.size.toNat), .integer (signed page.offset)]

def list (page : Page) (archive : Archive S) : StoreAnswer (Archive S) (List Job) :=
  let (result, archive) := archive.execute "list_jobs"
    { statement := .select .everything .newestFirst .page, parameters := window page }
  (everyJob result, archive)

instance : JobStore (Archive S) where
  add := add
  update := update
  get := get
  last := last
  running := running
  list := list

end Archive

end TicketReports
