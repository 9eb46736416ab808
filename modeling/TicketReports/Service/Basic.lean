import TicketReports.Pipeline.Live
import TicketReports.Processor.Basic
import TicketReports.Service.Home

set_option autoImplicit false

namespace TicketReports

structure Service (σ W : Type) where
  processor : Processor σ W
  address : String

namespace Service

def assemble {σ W : Type} (settings : Settings) (store : σ) (net : W)
    (folder : Folder := .missing) : Service σ (Live W) :=
  { processor := .new settings.pipelineTimeout.nanos store { settings, folder, net }
    address := settings.externalAddress }

def build {S W : Type} [Sql.Server S] (server : Sql.Address → S) (net : W) (settings : Settings) :
    Except StoreError (Service (JobHome S) (Live W)) :=
  (JobHome.ofSettings server settings).map fun home => assemble settings home net

def buildFailure (error : StoreError) : String := "job repository: " ++ error.message

end Service

end TicketReports
