import Mathlib.Data.List.Forall2
import TicketReports.Proofs.Access.Call
import TicketReports.Proofs.Download.Shelf

set_option autoImplicit false

namespace TicketReports

def DownloadError.what : DownloadError → Download
  | .access what _ => what
  | .undecodable what => what

namespace Download

open Paging

section Page

variable {α : Type} {what : Download} {read : Json → Option α}

theorem decoded_ok {result : Except AccessError Reply} {value : α}
    (ok : decoded what read result = .ok value) : ∃ reply, result = .ok reply := by
  cases result with
  | error error => cases ok
  | ok reply => exact ⟨reply, rfl⟩

theorem decoded_error {result : Except AccessError Reply} {error : DownloadError}
    (failed : decoded what read result = .error error) : error.what = what := by
  unfold decoded at failed
  split at failed
  next => cases failed; rfl
  next =>
    split at failed
    next => cases failed
    next => cases failed; rfl

variable {W : Type} [Network W]

def page (what : Download) (endpoint : Endpoint) (channel : String) (query : String → Json)
    (read : Json → Option α) (bookmark : String) : Timed DownloadError W (ResultPage α) :=
  fun left w =>
    let (reply, left, w) := endpoint.query channel (query bookmark) left w
    (decoded what (ResultPage.ofJson? read) reply, left, w)

theorem page_costs {endpoint : Endpoint} {channel bookmark : String} {query : String → Json}
    {left after : Nat} {w next : W} {found : ResultPage α}
    (asked : page what endpoint channel query read bookmark left w = (.ok found, after, next)) :
    after < left := by
  obtain ⟨ok, rfl, -⟩ := Prod.mk.injEq .. ▸ asked
  obtain ⟨reply, replied⟩ := decoded_ok ok
  exact Endpoint.callFrom_costs (Prod.ext replied rfl)

section Posed

variable {terms : String → Query.Terms} {query : String → Json}
  (said : ∀ bookmark, Query.Terms.ofJson? (query bookmark) = some (terms bookmark))
include said

theorem page_sends {log : W → List Request} (kept : Network.IsLog log) (what : Download)
    (endpoint : Endpoint) (channel : String) (read : Json → Option α) (bookmark : String)
    (left : Nat) (w : W) :
    ∃ requests : List Request,
      (∀ request ∈ requests, Query.Asks endpoint channel (terms bookmark) request) ∧
      log (page what endpoint channel query read bookmark left w).2.2 = log w ++ requests ∧
      ∀ found, (page what endpoint channel query read bookmark left w).1 = .ok found →
        requests ≠ [] := by
  obtain ⟨requests, own, grown, came⟩ :=
    Endpoint.callFrom_sends kept endpoint .query channel (some (query bookmark)) 0 left w
  refine ⟨requests, fun request member => ?_, grown, fun found ok => ?_⟩
  · obtain ⟨token, rfl⟩ := own request member
    exact Query.request_asks (said bookmark) endpoint channel token
  · obtain ⟨reply, replied⟩ := decoded_ok ok
    exact came reply replied

theorem page_served {endpoint : Endpoint} {channel bookmark : String} {left after : Nat}
    {w next : W} {found : ResultPage α}
    (asked : page what endpoint channel query read bookmark left w = (.ok found, after, next)) :
    ∃ (request : Request) (before : W) (reply : Reply),
      Query.Asks endpoint channel (terms bookmark) request ∧
      (Network.send request before).1.reply = some reply ∧ reply.status = 200 ∧
      (reply.body.whole?.bind Json.ofBytes?).bind (ResultPage.ofJson? read) = some found := by
  obtain ⟨ok, rfl, rfl⟩ := Prod.mk.injEq .. ▸ asked
  obtain ⟨reply, replied⟩ := decoded_ok ok
  obtain ⟨accepted, token, before, came⟩ := Endpoint.callFrom_answered (Prod.ext replied rfl)
  refine ⟨_, before, reply, Query.request_asks (said bookmark) endpoint channel token, came,
    accepted, ?_⟩
  rw [replied, decoded] at ok
  split at ok
  next value decodes => cases ok; exact decodes
  next => cases ok

theorem posed {κ : Type} {what : κ → Download} {endpoint : κ → Endpoint} {channel : κ → String}
    {inquiries : List (Inquiry κ DownloadError α)} {left after : Nat} {w next : W}
    (asked : Asked (fun chain => page (what chain) (endpoint chain) (channel chain) query read)
      inquiries left w after next) :
    Posed (fun chain bookmark => Query.Asks (endpoint chain) (channel chain) (terms bookmark)) read
      inquiries w next := by
  constructor
  case sent =>
    intro log kept
    exact asked.sent fun chain bookmark left w => page_sends said kept _ _ _ _ bookmark left w
  case served =>
    intro pages serves inquiry member found came
    obtain ⟨left, before, after, next, answered⟩ := asked.answers inquiry member
    rw [came] at answered
    obtain ⟨request, world, reply, asks, replied, accepted, decodes⟩ := page_served said answered
    exact (serves _ _ request world reply asks replied accepted).symm.trans decodes

end Posed

end Page

section Loading

variable {W : Type} [Network W]

def userPage (endpoints : Endpoints) (channel : Channel) :
    String → Timed DownloadError W (ResultPage UserRecord) :=
  page .users endpoints.users channel.id Query.users UserRecord.ofJson?

def ticketPage (endpoints : Endpoints) (chain : Channel × TicketKind) :
    String → Timed DownloadError W (ResultPage TicketRecord) :=
  page chain.2.download (endpoints.ofTickets chain.2) chain.1.id Query.tickets TicketRecord.ofJson?

def addUsers (channel : Channel) (records : List UserRecord) (snapshot : Snapshot) : Snapshot :=
  snapshot.addUsers ((records.map fun record => record.toUser channel.id).filter User.hasEmail)

def addTickets (chain : Channel × TicketKind) (records : List TicketRecord) (snapshot : Snapshot) :
    Snapshot :=
  snapshot.addTickets (records.map (assigned snapshot chain.2 chain.1))

theorem users_posed {endpoints : Endpoints}
    {inquiries : List (Inquiry Channel DownloadError UserRecord)} {left after : Nat} {w next : W}
    (asked : Asked (userPage endpoints) inquiries left w after next) :
    Posed (Query.ForUsers endpoints) UserRecord.ofJson? inquiries w next :=
  posed Query.users_terms asked

theorem tickets_posed {endpoints : Endpoints}
    {inquiries : List (Inquiry (Channel × TicketKind) DownloadError TicketRecord)}
    {left after : Nat} {w next : W}
    (asked : Asked (ticketPage endpoints) inquiries left w after next) :
    Posed (Query.ForTickets endpoints) TicketRecord.ofJson? inquiries w next := by
  have asks : Query.ForTickets endpoints = fun chain bookmark =>
      Query.Asks (endpoints.ofTickets chain.2) chain.1.id (Query.ticketTerms bookmark) := by
    funext ⟨channel, kind⟩ bookmark
    cases kind <;> rfl
  rw [asks]
  exact posed Query.tickets_terms asked

theorem addUsers_nil (channel : Channel) (snapshot : Snapshot) :
    addUsers channel [] snapshot = snapshot := by
  simp [addUsers, Snapshot.addUsers]

theorem addTickets_nil (chain : Channel × TicketKind) (snapshot : Snapshot) :
    addTickets chain [] snapshot = snapshot := by
  simp [addTickets, Snapshot.addTickets]

theorem usersOf_eq (endpoints : Endpoints) :
    usersOf (W := W) endpoints.users =
      trail (userPage endpoints) addUsers fun _ => .access .users .cancelled :=
  rfl

theorem ticketsOf_eq (endpoints : Endpoints) :
    ticketsOf (W := W) endpoints =
      trail (ticketPage endpoints) addTickets fun chain => .access chain.2.download .cancelled :=
  rfl

theorem loadUsers_asked (endpoints : Endpoints) (left : Nat) (scene : Scene W) :
    ∃ inquiries result after next,
      loadUsers endpoints left scene =
        (result, after, (kept addUsers inquiries scene.1, next)) ∧
      Round scene.1.channels inquiries result ∧
      Asked (userPage endpoints) inquiries left scene.2 after next := by
  rw [loadUsers, usersOf_eq]
  exact each_asked _ (fun _ _ _ _ _ _ _ asked => page_costs asked) addUsers_nil _ left scene

theorem loadTickets_asked (endpoints : Endpoints) (left : Nat) (scene : Scene W) :
    ∃ inquiries result after next,
      loadTickets endpoints left scene =
        (result, after, (kept addTickets inquiries scene.1, next)) ∧
      Round (chains scene.1.channels) inquiries result ∧
      Asked (ticketPage endpoints) inquiries left scene.2 after next := by
  rw [loadTickets, ticketsOf_eq]
  exact each_asked _ (fun _ _ _ _ _ _ _ asked => page_costs asked) addTickets_nil _ left scene

theorem kept_users (inquiries : List (Inquiry Channel DownloadError UserRecord))
    (snapshot : Snapshot) :
    kept addUsers inquiries snapshot = { snapshot with
      users := snapshot.users ++
        ((received inquiries).map fun (channel, record) => record.toUser channel.id).filter
          User.hasEmail } := by
  induction inquiries generalizing snapshot with
  | nil => simp [kept, received]
  | cons inquiry rest ih =>
    rw [kept_cons, ih, received_cons, List.map_append, List.map_map, List.filter_append,
      ← List.append_assoc]
    rfl

theorem kept_tickets (inquiries : List (Inquiry (Channel × TicketKind) DownloadError TicketRecord))
    (snapshot : Snapshot) :
    kept addTickets inquiries snapshot = { snapshot with
      tickets := snapshot.tickets ++
        (received inquiries).map fun (chain, record) =>
          assigned snapshot chain.2 chain.1 record } := by
  induction inquiries generalizing snapshot with
  | nil => simp [kept, received]
  | cons inquiry rest ih =>
    rw [kept_cons, ih, received_cons, List.map_append, List.map_map, ← List.append_assoc]
    -- A stored page of tickets leaves the users, so that later ones are assigned as before it.
    rfl

/-- The ticket is made of the record: its data, and the kind and the channel of its chain. -/
structure Stems (source : (Channel × TicketKind) × TicketRecord) (ticket : Ticket) : Prop where
  kind : ticket.kind = source.1.2
  channelId : ticket.channelId = source.1.1.id
  channelName : ticket.channelName = source.1.1.name
  userId : ticket.userId = source.2.assignee.getD ""
  data : ticket.data =
    { number := source.2.number
      description := source.2.description.getD ""
      state := source.2.state.getD 0
      location := source.2.location.getD ""
      createdAt := source.2.createdAt.bind Timestamp.read? }

theorem assigned_stems (snapshot : Snapshot) (source : (Channel × TicketKind) × TicketRecord) :
    Stems source (assigned snapshot source.1.2 source.1.1 source.2) := by
  unfold assigned
  dsimp only
  split
  next => exact ⟨rfl, rfl, rfl, rfl, rfl⟩
  next => exact ⟨rfl, rfl, rfl, rfl, rfl⟩

theorem stem (snapshot : Snapshot) (sources : List ((Channel × TicketKind) × TicketRecord)) :
    List.Forall₂ Stems sources
      (sources.map fun (chain, record) => assigned snapshot chain.2 chain.1 record) := by
  rw [List.forall₂_map_right_iff, List.forall₂_same]
  exact fun source _ => assigned_stems snapshot source

theorem asked_names {endpoints : Endpoints}
    {inquiries : List (Inquiry (Channel × TicketKind) DownloadError TicketRecord)}
    {left after : Nat} {w next : W}
    (asked : Asked (ticketPage endpoints) inquiries left w after next) :
    ∀ inquiry ∈ inquiries, ∀ error, inquiry.answer = .error error →
      error.what = inquiry.chain.2.download := by
  intro inquiry member error failed
  obtain ⟨before, found, rest, later, came⟩ := asked.answers inquiry member
  exact decoded_error ((congrArg Prod.fst came).trans failed)

/-- What is stored is one ticket for every record that came, in that order, whatever the network
answers. -/
theorem tickets_are_the_records_received (endpoints : Endpoints) (left : Nat) (snapshot : Snapshot)
    (w : W) :
    ∃ inquiries result after tickets next,
      let chains := snapshot.channels.flatMap fun channel =>
        [(channel, .incident), (channel, .request)]
      loadTickets endpoints left (snapshot, w) =
        (result, after, ({ snapshot with tickets := snapshot.tickets ++ tickets }, next)) ∧
      Asked (ticketPage endpoints) inquiries left w after next ∧
      Posed (Query.ForTickets endpoints) TicketRecord.ofJson? inquiries w next ∧
      Round chains inquiries result ∧
      (∀ upstream, AnsweredBy upstream inquiries → ∀ others outcome,
        Round chains others outcome → AnsweredBy upstream others →
          others = inquiries ∧ outcome = result) ∧
      List.Forall₂ Stems (received inquiries) tickets ∧
      ∀ inquiry ∈ inquiries, ∀ error, inquiry.answer = .error error →
        error.what = inquiry.chain.2.download := by
  obtain ⟨inquiries, result, after, next, loaded, round, asked⟩ :=
    loadTickets_asked endpoints left (snapshot, w)
  rw [kept_tickets] at loaded
  exact ⟨inquiries, result, after, _, next, loaded, asked, tickets_posed asked, round,
    fun upstream answered others outcome another alike =>
      round.determined another answered alike, stem snapshot _, asked_names asked⟩

end Loading

section Shelf

def numbered (numbers : List String) : String :=
  ",".intercalate (numbers.map fun number => "\x7b\"number\":\"" ++ number ++ "\"\x7d")

def leaves (bookmark : String) : List UInt8 :=
  if bookmark = "" then
    Shelf.ascii ("\x7b\"bookmark\":\"b\",\"result\":[" ++
      numbered ["1", "2", "3", "4", "5", "6", "7", "8", "9", "10"] ++ "]\x7d")
  else if bookmark = "b" then
    Shelf.ascii ("\x7b\"result\":[" ++ numbered ["11"] ++ "]\x7d")
  else []

def shelved : Snapshot := { channels := [⟨"c1", "One"⟩] }

theorem second_page_is_asked_for_by_its_bookmark :
    let asks := Query.ForTickets Shelf.desks
    ∃ inquiries after tickets next,
      loadTickets Shelf.desks 9 (shelved, ({} : Shelf leaves)) =
        (.ok (), after, ({ shelved with tickets }, next)) ∧
      Asked (ticketPage Shelf.desks) inquiries 9 {} after next ∧ tickets.length = 22 ∧
      Sent asks inquiries next.met ∧
      next.met.map (fun request => Shelf.bookmark request.body) = ["", "b", "", "b"] ∧
      ∀ inquiry ∈ inquiries, ∀ page, inquiry.answer = .ok page →
        (Json.ofBytes? (leaves inquiry.bookmark)).bind (ResultPage.ofJson? TicketRecord.ofJson?) =
          some page := by
  intro asks
  have told : ∀ chain name request, asks chain name request →
      Shelf.bookmark request.body = name := by
    rintro ⟨channel, kind⟩ name request asked
    cases kind <;> exact Shelf.bookmark_of_asks asked
  obtain ⟨inquiries, result, after, tickets, next, loaded, asked, posed, -, -, -, -⟩ :=
    tickets_are_the_records_received Shelf.desks 9 shelved ({} : Shelf leaves)
  -- One run gives all three, which are costly to compute.
  have ran : (fun scene : Except DownloadError Unit × Nat × Snapshot × Shelf leaves =>
      (scene.1, scene.2.2.1.tickets.length,
        scene.2.2.2.met.map fun request => Shelf.bookmark request.body))
        (loadTickets Shelf.desks 9 (shelved, {})) = (.ok (), 22, ["", "b", "", "b"]) := by
    decide +kernel
  rw [loaded] at ran
  obtain ⟨well, many, named⟩ : result = .ok () ∧ tickets.length = 22 ∧
      next.met.map (fun request => Shelf.bookmark request.body) = ["", "b", "", "b"] := by
    simpa [shelved] using ran
  obtain ⟨requests, grown, sent⟩ := posed.sent Shelf.met Shelf.isLog
  rw [List.nil_append] at grown
  refine ⟨inquiries, after, tickets, next, ?_, asked, many, grown ▸ sent, named, ?_⟩
  · rw [loaded, well]
    rfl
  · intro inquiry member page came
    exact posed.served _ (Shelf.serves told _) inquiry member page came

end Shelf

end Download

end TicketReports
