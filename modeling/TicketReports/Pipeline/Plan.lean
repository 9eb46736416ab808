import TicketReports.Job.Basic
import TicketReports.Pipeline.Step

set_option autoImplicit false

namespace TicketReports

def JobKind.stepsOf (kind : JobKind) : Phase → List Step
  | .channelsDownload => [.channels]
  | .usersDownload => [.users]
  | .ticketsDownload => [.tickets]
  | .workbookGeneration => kind.audiences.map .report
  | .mailSending => kind.audiences.map .mail

def JobKind.steps (kind : JobKind) : List Step :=
  [.forgetUsers, .forgetTickets] ++ Phase.all.flatMap kind.stepsOf

/-- What the worker does next. Recording a change takes two calls to the store: the job is loaded
and changed, then saved. -/
inductive Action where
  | perform (step : Step)
  | resume (step : Step)
  | record (change : Job.Change)
  | save (job : Job)
  deriving DecidableEq, Repr

namespace Action

def ofPhase (kind : JobKind) (phase : Phase) : List Action :=
  .record (.start phase) :: (kind.stepsOf phase).map .perform ++ [.record (.finishPhase phase)]

def plan (kind : JobKind) : List Action :=
  .perform .forgetUsers :: .perform .forgetTickets :: Phase.all.flatMap (ofPhase kind)

end Action

end TicketReports
