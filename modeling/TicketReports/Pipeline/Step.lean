import TicketReports.Download.Error
import TicketReports.Job.Kind
import TicketReports.Mail.Error
import TicketReports.Report.Error

set_option autoImplicit false

namespace TicketReports

inductive Step where
  | forgetUsers
  | forgetTickets
  | channels
  | users
  | tickets
  | report (audience : Audience)
  | mail (audience : Audience)
  deriving DecidableEq, Repr

namespace Step

def name : Step → String
  | .forgetUsers => "reset users"
  | .forgetTickets => "reset tickets"
  | .channels => "channels"
  | .users => "users"
  | .tickets => "tickets"
  | .report audience => "report " ++ audience.name
  | .mail audience => "email " ++ audience.name

def fallible : List Step :=
  [.channels, .users, .tickets] ++ Audience.all.map .report ++ Audience.all.map .mail

def download? : Step → Option Download
  | .channels => some .channels
  | .users => some .users
  | .tickets => some .incidents
  | _ => none

end Step

inductive StepError where
  | download (error : DownloadError)
  | report (error : ReportError)
  | mail (error : MailError)
  deriving DecidableEq, Repr

def StepError.message : StepError → String
  | .download error => error.message
  | .report error => error.message
  | .mail error => error.message

inductive StepEnd where
  | done
  | failed (error : StepError)
  | panicked (detail : String)
  | waiting
  deriving DecidableEq, Repr

/-- What carries the steps out. A step is told how much time its run has left, in nanoseconds, and
returns what it leaves. -/
class Stages (W : Type) where
  perform : Step → Nat → W → StepEnd × Nat × W
  close : W → W

end TicketReports
