import TicketReports.Download.Basic
import TicketReports.Mail.Sender
import TicketReports.Pipeline.Step
import TicketReports.Report.Writer
import TicketReports.Settings.Basic

set_option autoImplicit false

namespace TicketReports

structure Live (W : Type) where
  settings : Settings
  snapshot : Snapshot := {}
  folder : Folder := .missing
  net : W

namespace Settings

def endpoint (settings : Settings) (url : String) : Endpoint :=
  { url, policy := settings.retry, timeout := settings.requestTimeout }

def endpoints (settings : Settings) : Endpoints :=
  { channels := settings.endpoint settings.channelEndpoint
    users := settings.endpoint settings.userEndpoint
    incidents := settings.endpoint settings.incidentEndpoint
    requests := settings.endpoint settings.requestEndpoint }

def mail (settings : Settings) : MailSettings :=
  { url := settings.mailUrl
    token := settings.mailToken
    stream := settings.messageStream
    sender := settings.fromAddress
    serviceDesk := settings.serviceDesk }

end Settings

namespace Live

variable {W : Type} [Network W]

def download (load : Timed DownloadError (Download.Scene W) Unit) :
    Timed StepError (Live W) Unit := fun left live =>
  let (result, left, (snapshot, net)) := load left (live.snapshot, live.net)
  (result.mapError .download, left, { live with snapshot, net })

def report (audience : Audience) : Timed StepError (Live W) Unit := fun left live =>
  let (result, left, folder) :=
    Report.write live.settings.reportsDir audience live.snapshot left live.folder
  (result.mapError .report, left, { live with folder })

def mail (audience : Audience) : Timed StepError (Live W) Unit := fun left live =>
  let (result, left, net) :=
    Mail.send live.settings.mail live.settings.requestTimeout live.settings.reportsDir audience
      live.snapshot live.folder left live.net
  (result.mapError .mail, left, { live with net })

def run (step : Step) : Timed StepError (Live W) Unit := fun left live =>
  match step with
  | .forgetUsers => (.ok (), left, { live with snapshot := live.snapshot.forgetUsers })
  | .forgetTickets => (.ok (), left, { live with snapshot := live.snapshot.forgetTickets })
  | .channels => download (Download.loadChannels live.settings.endpoints) left live
  | .users => download (Download.loadUsers live.settings.endpoints) left live
  | .tickets => download (Download.loadTickets live.settings.endpoints) left live
  | .report audience => report audience left live
  | .mail audience => mail audience left live

instance : Stages (Live W) where
  perform step left live :=
    match run step left live with
    | (.ok (), left, live) => (.done, left, live)
    | (.error error, left, live) => (.failed error, left, live)
  close := id

end Live

end TicketReports
