import TicketReports.Job.Id
import TicketReports.Job.Kind
import TicketReports.Job.Progress
import TicketReports.Job.Status

set_option autoImplicit false

namespace TicketReports

structure Job where
  id : Option JobId := none
  kind : JobKind
  createdAt : Timestamp
  progress : Progress := {}
  outcome : Option FinalStatus := none
  deriving DecidableEq, Repr

namespace Job

def new (kind : JobKind) (now : Timestamp) : Job := { kind, createdAt := now }

def isRunning (job : Job) : Bool := job.outcome.isNone

def assignId (job : Job) (id : JobId) : Except DomainError Job :=
  match job.id with
  | some existing => .error (.invariant ("job id already assigned (" ++ existing.text ++ ")"))
  | none => .ok { job with id := some id }

def ensureRunning (job : Job) : Except DomainError Unit :=
  match job.outcome with
  | none => .ok ()
  | some status => .error (.invariant ("job already finished with status '" ++ status.text ++ "'"))

-- An earlier finish of the phase is forgotten.
def startPhase (job : Job) (phase : Phase) (now : Timestamp) : Except DomainError Job := do
  job.ensureRunning
  .ok { job with progress := job.progress.set phase { started := some now } }

def finishPhase (job : Job) (phase : Phase) (now : Timestamp) : Except DomainError Job := do
  job.ensureRunning
  let stamps := job.progress.get phase
  match stamps.started with
  | none => .error (.invariant ("phase " ++ phase.name ++ " finished before it started"))
  | some _ =>
    let stamps := { stamps with finished := some now }
    .ok { job with progress := job.progress.set phase stamps }

def finish (job : Job) (status : FinalStatus) : Except DomainError Job := do
  job.ensureRunning
  .ok { job with outcome := some status }

inductive Change where
  | start (phase : Phase)
  | finishPhase (phase : Phase)
  | close (status : FinalStatus)
  deriving DecidableEq, Repr

def apply (job : Job) (now : Timestamp) : Change → Except DomainError Job
  | .start phase => job.startPhase phase now
  | .finishPhase phase => job.finishPhase phase now
  | .close status => job.finish status

end Job

end TicketReports
