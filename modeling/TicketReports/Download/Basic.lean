import TicketReports.Access.Call
import TicketReports.Download.Error
import TicketReports.Download.Paging
import TicketReports.Download.Query
import TicketReports.Snapshot

set_option autoImplicit false

namespace TicketReports

structure Endpoints where
  channels : Endpoint
  users : Endpoint
  incidents : Endpoint
  requests : Endpoint
  deriving DecidableEq

namespace TicketKind

def download : TicketKind → Download
  | .incident => .incidents
  | .request => .requests

end TicketKind

namespace Endpoints

def ofTickets (endpoints : Endpoints) : TicketKind → Endpoint
  | .incident => endpoints.incidents
  | .request => endpoints.requests

end Endpoints

namespace Download

variable {W : Type} [Network W]

abbrev Scene (W : Type) := Snapshot × W

def decoded {α : Type} (what : Download) (read : Json → Option α)
    (result : Except AccessError Reply) : Except DownloadError α :=
  match result with
  | .error error => .error (.access what error)
  | .ok reply =>
    match (reply.body.whole?.bind Json.ofBytes?).bind read with
    | some value => .ok value
    | none => .error (.undecodable what)

def fetch {α : Type} (what : Download) (endpoint : Endpoint) (channel : String)
    (query : String → Json) (record : Json → Option α) (bookmark : String) :
    Timed DownloadError (Scene W) (ResultPage α) := fun left (snapshot, w) =>
  let (result, left, w) := endpoint.query channel (query bookmark) left w
  (decoded what (ResultPage.ofJson? record) result, left, (snapshot, w))

def loadChannels (endpoints : Endpoints) : Timed DownloadError (Scene W) Unit :=
  fun left (snapshot, w) =>
    let (result, left, w) := endpoints.channels.get "" left w
    match decoded .channels Channel.listOfJson? result with
    | .error error => (.error error, left, (snapshot, w))
    | .ok found => (.ok (), left, (snapshot.setChannels found, w))

def keepUsers (channel : Channel) (records : List UserRecord) (scene : Scene W) : Scene W :=
  let users := (records.map fun record => record.toUser channel.id).filter User.hasEmail
  (scene.1.addUsers users, scene.2)

def usersOf (endpoint : Endpoint) (channel : Channel) : Timed DownloadError (Scene W) Unit :=
  Paging.follow (.access .users .cancelled)
    (fetch .users endpoint channel.id Query.users UserRecord.ofJson?) (keepUsers channel) ""

def loadUsers (endpoints : Endpoints) : Timed DownloadError (Scene W) Unit :=
  fun left scene => Paging.each (usersOf endpoints.users) scene.1.channels left scene

def assigned (snapshot : Snapshot) (kind : TicketKind) (channel : Channel)
    (record : TicketRecord) : Ticket :=
  let ticket := record.toTicket kind channel
  match snapshot.user? channel.id ticket.userId with
  | some user => ticket.assignTo user
  | none => ticket

def keepTickets (kind : TicketKind) (channel : Channel) (records : List TicketRecord)
    (scene : Scene W) : Scene W :=
  (scene.1.addTickets (records.map (assigned scene.1 kind channel)), scene.2)

def ticketsOf (endpoints : Endpoints) (chain : Channel × TicketKind) :
    Timed DownloadError (Scene W) Unit :=
  let (channel, kind) := chain
  Paging.follow (.access kind.download .cancelled)
    (fetch kind.download (endpoints.ofTickets kind) channel.id Query.tickets TicketRecord.ofJson?)
    (keepTickets kind channel) ""

def chains (channels : List Channel) : List (Channel × TicketKind) :=
  channels.flatMap fun channel => TicketKind.all.map fun kind => (channel, kind)

def loadTickets (endpoints : Endpoints) : Timed DownloadError (Scene W) Unit :=
  fun left scene => Paging.each (ticketsOf endpoints) (chains scene.1.channels) left scene

end Download

end TicketReports
