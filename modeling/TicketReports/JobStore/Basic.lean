import TicketReports.Job.Basic
import TicketReports.JobStore.Error
import TicketReports.JobStore.Page

set_option autoImplicit false

namespace TicketReports

abbrev StoreAnswer (σ α : Type) := Except StoreError α × σ

class JobStore (σ : Type) where
  add : JobId → Job → σ → StoreAnswer σ JobId
  -- Only the stamps and the final status of the stored job are overwritten.
  update : Job → σ → StoreAnswer σ Unit
  get : JobId → σ → StoreAnswer σ Job
  last : σ → StoreAnswer σ Job
  -- Those without a final status, oldest first.
  running : σ → StoreAnswer σ (List Job)
  list : Page → σ → StoreAnswer σ (List Job)

namespace JobStore

variable {σ : Type} [JobStore σ]

def unsaved : StoreError := .domain (.invariant "cannot update a job without an id")

def create (fresh : JobId) (now : Timestamp) (kind : JobKind) (store : σ) : StoreAnswer σ JobId :=
  add fresh (Job.new kind now) store

def listPage (number : UInt32) (store : σ) : StoreAnswer σ (List Job) :=
  match Page.ofJobs number with
  | .error error => (.error (.domain error), store)
  | .ok page => list page store

def change (id : JobId) (edit : Job → Except DomainError Job) (store : σ) : StoreAnswer σ Unit :=
  match get id store with
  | (.error error, store) => (.error error, store)
  | (.ok job, store) =>
    match edit job with
    | .error error => (.error (.domain error), store)
    | .ok job => update job store

def markRejected (id : JobId) (reason : String) (store : σ) : StoreAnswer σ Unit :=
  change id (fun job => job.finish (.error reason)) store

end JobStore

end TicketReports
