import TicketReports.JobStore.Archive
import TicketReports.JobStore.History
import TicketReports.Settings.Basic
import TicketReports.Sql.Address

set_option autoImplicit false

namespace TicketReports

inductive JobHome (S : Type) where
  | memory (history : History)
  | table (archive : Archive S)

namespace JobHome

open Sql

variable {S α : Type} [Server S]

def perform (inMemory : History → StoreAnswer History α)
    (inTable : Archive S → StoreAnswer (Archive S) α) (home : JobHome S) :
    StoreAnswer (JobHome S) α :=
  match home with
  | .memory history =>
    let (answer, history) := inMemory history
    (answer, .memory history)
  | .table archive =>
    let (answer, archive) := inTable archive
    (answer, .table archive)

instance : JobStore (JobHome S) where
  add fresh job := perform (JobStore.add fresh job) (JobStore.add fresh job)
  update job := perform (JobStore.update job) (JobStore.update job)
  get id := perform (JobStore.get id) (JobStore.get id)
  last := perform JobStore.last JobStore.last
  running := perform JobStore.running JobStore.running
  list page := perform (JobStore.list page) (JobStore.list page)

def reach (server : Address → S) (address : String) : Except StoreError (JobHome S) :=
  match Address.read address with
  | .error error => .error (Archive.storeError "connect" (.lost error.message))
  | .ok address =>
    match Archive.connect (server address) with
    | (.error error, _) => .error error
    | (.ok (), archive) => .ok (.table archive)

def ofSettings (server : Address → S) (settings : Settings) : Except StoreError (JobHome S) :=
  match settings.databaseUrl with
  | some address => reach server address
  | none => .ok (.memory (History.withCapacity settings.historyLimit))

end JobHome

end TicketReports
