import TicketReports.Proofs.Download.Identities
import TicketReports.Proofs.Download.Parrot

set_option autoImplicit false

namespace TicketReports

/-- The ticket carries nobody's identity, and no engineer is told about it. -/
structure Ticket.Unassigned (ticket : Ticket) (stored : Snapshot) : Prop where
  name : ticket.userName = ""
  email : ticket.userEmail = ""
  organization : ticket.userOrganization = ""
  unlisted : ∀ address ∈ stored.emails, ticket ∉ stored.ticketsOf address

theorem Ticket.Unassigned.of_unclaimed {ticket : Ticket} {users : List User}
    (unclaimed : ticket.Unclaimed users) (stored : Snapshot) : ticket.Unassigned stored := by
  refine ⟨unclaimed.name, unclaimed.email, unclaimed.organization, fun address listed told => ?_⟩
  -- An address is listed only if it is not empty, and has the tickets that carry it.
  have held := (stored.ticketsOf_perm address).mem_iff.mp told
  have same : ticket.userEmail = address := eq_of_beq (List.mem_filter.mp held).2
  exact ((stored.mem_emails address).mp listed).1 (same.symm.trans unclaimed.email)

namespace Download

open Paging

def Names (entry : Channel × UserRecord) (source : (Channel × TicketKind) × TicketRecord) : Prop :=
  entry.1.id = source.1.1.id ∧ entry.2.id.getD "" = source.2.assignee.getD ""

theorem mem_enrolled {sources : List (Channel × UserRecord)} {user : User} :
    user ∈ enrolled sources ↔
      ∃ source ∈ sources, source.2.IsMailable ∧ source.2.toUser source.1.id = user := by
  rw [enrolled, List.mem_filter, List.mem_map]
  constructor
  · rintro ⟨⟨source, member, rfl⟩, mailed⟩
    exact ⟨source, member, (hasEmail_toUser source).mp mailed, rfl⟩
  · rintro ⟨source, member, mailable, rfl⟩
    exact ⟨⟨source, member, rfl⟩, (hasEmail_toUser source).mpr mailable⟩

theorem assigned_unassigned_iff {snapshot : Snapshot} {entries : List (Channel × UserRecord)}
    (users : snapshot.users = enrolled entries) (stored : Snapshot)
    (source : (Channel × TicketKind) × TicketRecord) :
    (assigned snapshot source.1.2 source.1.1 source.2).Unassigned stored ↔
      ∀ entry ∈ entries, Names entry source → ¬entry.2.IsMailable := by
  -- The ticket names whom its record names, under the same default.
  have stems := assigned_stems snapshot source
  rcases assigned_sound (users ▸ enrolled_mailed entries) source.1.2 source.1.1 source.2 with
    unclaimed | ⟨user, carries⟩
  · refine iff_of_true (.of_unclaimed unclaimed stored) ?_
    rintro entry member ⟨channel, id⟩ mailable
    have held : entry.2.toUser entry.1.id ∈ snapshot.users :=
      users ▸ mem_enrolled.mpr ⟨entry, member, mailable, rfl⟩
    exact unclaimed.nobody _ held ⟨channel.trans stems.channelId.symm, id.trans stems.userId.symm⟩
  · refine iff_of_false (fun unassigned => ?_) fun nobody => ?_
    · exact (Ticket.isAssigned_iff _).mp carries.assigned unassigned.email
    · obtain ⟨entry, member, mailable, rfl⟩ := mem_enrolled.mp (users ▸ carries.member)
      exact nobody entry member
        ⟨carries.has.1.trans stems.channelId, carries.has.2.trans stems.userId⟩ mailable

section Loading

variable {W : Type} [Network W]

/-- A ticket stays unassigned exactly if no user with an address came for its channel under the id
that its record names, a missing one being empty. -/
theorem unassigned_iff_nobody_named (endpoints : Endpoints) (left : Nat) (snapshot : Snapshot)
    (w : W) :
    let empty := snapshot.forgetUsers.forgetTickets
    ∃ enrolments outcome after users between,
      loadUsers endpoints left (empty, w) = (outcome, after, (users, between)) ∧
      Asked (userPage endpoints) enrolments left w after between ∧
      Round snapshot.channels enrolments outcome ∧
      ∀ (later : Nat) (next : W), ∃ inquiries result rest stored last,
        loadTickets endpoints later (users, next) = (result, rest, (stored, last)) ∧
        Asked (ticketPage endpoints) inquiries later next rest last ∧
        Round (chains snapshot.channels) inquiries result ∧
        List.Forall₂
          (fun source ticket => Stems source ticket ∧
            (ticket.Unassigned stored ↔
              ∀ entry ∈ received enrolments, Names entry source → ¬entry.2.IsMailable))
          (received inquiries) stored.tickets := by
  intro empty
  obtain ⟨enrolments, outcome, after, between, loaded, round, asked⟩ :=
    loadUsers_asked endpoints left (empty, w)
  rw [kept_users] at loaded
  refine ⟨enrolments, outcome, after, _, between, loaded, asked, round, fun later next => ?_⟩
  obtain ⟨inquiries, result, rest, last, found, others, met⟩ :=
    loadTickets_asked endpoints later
      ({ empty with users := empty.users ++ enrolled (received enrolments) }, next)
  rw [kept_tickets] at found
  refine ⟨inquiries, result, rest, _, last, found, met, others, ?_⟩
  refine List.forall₂_map_right_iff.mpr (List.forall₂_same.mpr fun source _ => ?_)
  exact ⟨assigned_stems _ source, assigned_unassigned_iff rfl _ source⟩

end Loading

section Nameless

def nameless : List UInt8 :=
  Shelf.ascii ("\x7b\"result\":[\x7b\"number\":\"INC1\"," ++
    "\"full_name\":\"Ann\",\"email\":\"ann@x.cz\"\x7d]\x7d")

/-- A user without an id gets the tickets of the channel that have no assignee. -/
theorem user_without_id_gets_unassigned_tickets :
    let empty : Snapshot := { channels := [⟨"c1", "One"⟩] }
    ∃ users between inquiries stored last,
      loadUsers Shelf.desks 1 (empty, ({} : Parrot nameless)) = (.ok (), 0, (users, between)) ∧
      loadTickets Shelf.desks 2 (users, between) = (.ok (), 0, (stored, last)) ∧
      Asked (ticketPage Shelf.desks) inquiries 2 between 0 last ∧
      List.Forall₂ Stems (received inquiries) stored.tickets ∧
      (∀ source ∈ received inquiries, source.2.assignee = none) ∧
      stored.tickets.length = 2 ∧ "ann@x.cz" ∈ stored.emails ∧
      ∀ ticket ∈ stored.tickets,
        ticket.userName = "Ann" ∧ ticket ∈ stored.ticketsOf "ann@x.cz" ∧
          ¬ticket.Unassigned stored := by
  intro empty
  let channel : Channel := ⟨"c1", "One"⟩
  let person : ResultPage UserRecord := { records := [{ name := "Ann", email := "ann@x.cz" }] }
  let task : ResultPage TicketRecord := { records := [{ number := "INC1" }] }
  let hear (query : Json) (w : Parrot nameless) : Parrot nameless :=
    w.hear (Endpoint.desk.request .query "c1" (some query) "t0k")
  have enrolled (w : Parrot nameless) : usersOf Shelf.desks.users channel 1 (empty, w) =
      (.ok (), 0, (addUsers channel person.records empty, hear (Query.users "") w)) := by
    rw [usersOf_eq]
    refine trail_last empty ?_ rfl
    exact Parrot.page_eq Shelf.desk_whole (by decide +kernel) .users "" 0 w
  have tasks (kind : TicketKind) (left : Nat) (w : Parrot nameless) :
      ticketPage Shelf.desks (channel, kind) "" (left + 1) w =
        (.ok task, left, hear (Query.tickets "") w) := by
    rw [ticketPage, Shelf.ofTickets_desks]
    exact Parrot.page_eq Shelf.desk_whole (by decide +kernel) kind.download "" left w
  have stored (kind : TicketKind) (left : Nat) (store : Snapshot) (w : Parrot nameless) :
      ticketsOf Shelf.desks (channel, kind) (left + 1) (store, w) = (.ok (), left,
        (addTickets (channel, kind) task.records store, hear (Query.tickets "") w)) := by
    rw [ticketsOf_eq]
    exact trail_last store (tasks kind left w) rfl
  let told : Snapshot := addTickets (channel, .request) task.records
    (addTickets (channel, .incident) task.records (addUsers channel person.records empty))
  have listed : "ann@x.cz" ∈ told.emails := by decide +kernel
  have gets : ∀ ticket ∈ told.tickets,
      ticket.userName = "Ann" ∧ ticket ∈ told.ticketsOf "ann@x.cz" := by decide +kernel
  refine ⟨_, _, _, told, _, each_cons [] (enrolled {}),
    (each_cons _ (stored .incident 1 _ _)).trans (each_cons [] (stored .request 0 _ _)),
    .next (tasks .incident 1 _) (.next (tasks .request 0 _) (.nothing 0 _)),
    .cons (assigned_stems _ _) (.cons (assigned_stems _ _) .nil), by decide, rfl, listed, ?_⟩
  intro ticket member
  obtain ⟨name, holds⟩ := gets ticket member
  exact ⟨name, holds, fun unassigned => unassigned.unlisted _ listed holds⟩

end Nameless

end Download

end TicketReports
