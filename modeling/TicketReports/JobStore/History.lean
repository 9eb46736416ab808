import TicketReports.JobStore.Basic

set_option autoImplicit false

namespace TicketReports

structure History where
  capacity : Nat
  jobs : List Job := []
  deriving DecidableEq, Repr

namespace History

def defaultCapacity : Nat := 10

def withCapacity (capacity : Nat) : History := { capacity := max capacity 1 }

def dropFinished : Nat → List Job → List Job
  | 0, jobs => jobs
  | _ + 1, [] => []
  | excess + 1, job :: rest =>
    if job.isRunning then job :: dropFinished (excess + 1) rest else dropFinished excess rest

def push (history : History) (job : Job) : History :=
  let jobs := history.jobs ++ [job]
  { history with jobs := dropFinished (jobs.length - history.capacity) jobs }

def find? (history : History) (id : JobId) : Option Job :=
  history.jobs.find? fun job => job.id == some id

def merge (stored job : Job) : Job :=
  { stored with progress := job.progress, outcome := job.outcome }

def mergeFirst (id : JobId) (job : Job) : List Job → List Job
  | [] => []
  | stored :: rest =>
    if stored.id = some id then merge stored job :: rest else stored :: mergeFirst id job rest

def add (fresh : JobId) (job : Job) (history : History) : StoreAnswer History JobId :=
  match job.assignId fresh with
  | .error error => (.error (.domain error), history)
  | .ok job => (.ok fresh, history.push job)

def update (job : Job) (history : History) : StoreAnswer History Unit :=
  match job.id with
  | none => (.error JobStore.unsaved, history)
  | some id =>
    match history.find? id with
    | none => (.error (.notFound id), history)
    | some _ => (.ok (), { history with jobs := mergeFirst id job history.jobs })

def get (id : JobId) (history : History) : StoreAnswer History Job :=
  match history.find? id with
  | none => (.error (.notFound id), history)
  | some job => (.ok job, history)

def last (history : History) : StoreAnswer History Job :=
  match history.jobs.getLast? with
  | none => (.error .empty, history)
  | some job => (.ok job, history)

def running (history : History) : StoreAnswer History (List Job) :=
  (.ok (history.jobs.filter Job.isRunning), history)

def list (page : Page) (history : History) : StoreAnswer History (List Job) :=
  (.ok (page.window history.jobs.reverse), history)

instance : JobStore History where
  add := add
  update := update
  get := get
  last := last
  running := running
  list := list

end History

end TicketReports
