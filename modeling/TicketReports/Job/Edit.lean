import TicketReports.Job.Basic

set_option autoImplicit false

namespace TicketReports

namespace Job

abbrev Edit := EStateM DomainError Job

namespace Edit

def assignId (id : JobId) : Edit Unit := do
  if let some existing := (← get).id then
    throw (.invariant ("job id already assigned (" ++ existing.text ++ ")"))
  modify fun job => { job with id := some id }

def startPhase (phase : Phase) (now : Timestamp) : Edit Unit := do
  ofExcept (← get).ensureRunning
  modify fun job => { job with progress := job.progress.set phase { started := some now } }

def finishPhase (phase : Phase) (now : Timestamp) : Edit Unit := do
  ofExcept (← get).ensureRunning
  if ((← get).progress.get phase).started = none then
    throw (.invariant ("phase " ++ phase.name ++ " finished before it started"))
  modify fun job =>
    let times := { job.progress.get phase with finished := some now }
    { job with progress := job.progress.set phase times }

def finish (status : FinalStatus) : Edit Unit := do
  ofExcept (← get).ensureRunning
  modify fun job => { job with outcome := some status }

end Edit

inductive Call where
  | assign (id : JobId)
  | change (change : Change)
  deriving DecidableEq, Repr

namespace Call

def edit (now : Timestamp) : Call → Edit Unit
  | .assign id => .assignId id
  | .change (.start phase) => .startPhase phase now
  | .change (.finishPhase phase) => .finishPhase phase now
  | .change (.close status) => .finish status

def run (now : Timestamp) (call : Call) (job : Job) : EStateM.Result DomainError Job Unit :=
  (call.edit now).run job

def after : EStateM.Result DomainError Job Unit → Job
  | .ok _ job => job
  | .error _ job => job

def apply (now : Timestamp) (job : Job) : Call → Except DomainError Job
  | .assign id => job.assignId id
  | .change asked => job.apply now asked

end Call

def serve (job : Job) (calls : List (Timestamp × Call)) : Job :=
  calls.foldl (fun job (now, call) => Call.after (call.run now job)) job

end Job

end TicketReports
