import TicketReports.Proofs.Download.Enrolment
import TicketReports.Proofs.Snapshot

set_option autoImplicit false

namespace TicketReports

def User.Has (user : User) (ticket : Ticket) : Prop :=
  user.channelId = ticket.channelId ∧ user.id = ticket.userId

/-- The ticket carries no identity, and no user is the one it names. -/
structure Ticket.Unclaimed (ticket : Ticket) (users : List User) : Prop where
  name : ticket.userName = ""
  email : ticket.userEmail = ""
  organization : ticket.userOrganization = ""
  unassigned : ticket.isAssigned = false
  nobody : ∀ user ∈ users, ¬user.Has ticket

/-- The ticket carries the identity of the first user that it names. -/
structure Ticket.Carries (ticket : Ticket) (users : List User) (user : User) : Prop where
  has : user.Has ticket
  first : ∃ before after, users = before ++ user :: after ∧ ∀ other ∈ before, ¬other.Has ticket
  name : ticket.userName = user.name
  email : ticket.userEmail = user.email
  organization : ticket.userOrganization = user.organization
  assigned : ticket.isAssigned = true

theorem Ticket.Carries.member {ticket : Ticket} {users : List User} {user : User}
    (carries : ticket.Carries users user) : user ∈ users := by
  obtain ⟨before, after, rfl, -⟩ := carries.first
  exact List.mem_append_right before List.mem_cons_self

theorem Ticket.isAssigned_iff (ticket : Ticket) :
    ticket.isAssigned = true ↔ ticket.userEmail ≠ "" :=
  bne_iff_ne

namespace Snapshot

variable {snapshot : Snapshot}

theorem user?_eq_none {channelId id : String} (absent : snapshot.user? channelId id = none) :
    ∀ user ∈ snapshot.users, ¬(user.channelId = channelId ∧ user.id = id) := by
  simpa [user?, List.find?_eq_none] using absent

theorem user?_eq_some {channelId id : String} {user : User}
    (found : snapshot.user? channelId id = some user) :
    (user.channelId = channelId ∧ user.id = id) ∧
      ∃ before after, snapshot.users = before ++ user :: after ∧
        ∀ other ∈ before, ¬(other.channelId = channelId ∧ other.id = id) := by
  obtain ⟨here, before, after, parts, first⟩ := List.find?_eq_some_iff_append.mp found
  refine ⟨by simpa using here, before, after, parts, fun other member same => ?_⟩
  simpa [same] using first other member

end Snapshot

namespace Download

open Paging

variable {snapshot : Snapshot}

theorem assigned_sound (mailed : ∀ user ∈ snapshot.users, Text.trim user.email ≠ "")
    (kind : TicketKind) (channel : Channel) (record : TicketRecord) :
    (assigned snapshot kind channel record).Unclaimed snapshot.users ∨
      ∃ user, (assigned snapshot kind channel record).Carries snapshot.users user := by
  unfold assigned
  dsimp only
  split
  next user found =>
    obtain ⟨has, before, after, parts, first⟩ := Snapshot.user?_eq_some found
    have member : user ∈ snapshot.users := parts ▸ List.mem_append_right _ List.mem_cons_self
    refine .inr ⟨user, has, ⟨before, after, parts, first⟩, rfl, rfl, rfl, ?_⟩
    exact (Ticket.isAssigned_iff _).mpr (Text.ne_empty_of_trim (mailed user member))
  next absent => exact .inl ⟨rfl, rfl, rfl, rfl, Snapshot.user?_eq_none absent⟩

section Loading

variable {W : Type} [Network W]

theorem loadUsers_mailed (endpoints : Endpoints) (left : Nat) (scene : Scene W)
    (mailed : ∀ user ∈ scene.1.users, Text.trim user.email ≠ "") :
    (loadUsers endpoints left scene).2.2.1.tickets = scene.1.tickets ∧
      ∀ user ∈ (loadUsers endpoints left scene).2.2.1.users, Text.trim user.email ≠ "" := by
  obtain ⟨inquiries, result, after, next, loaded, -, -⟩ := loadUsers_asked endpoints left scene
  rw [loaded, kept_users]
  refine ⟨rfl, fun user member => ?_⟩
  rcases List.mem_append.mp member with old | new
  · exact mailed user old
  · exact enrolled_mailed (received inquiries) user new

theorem loadTickets_sound (endpoints : Endpoints) (left : Nat) (scene : Scene W)
    (mailed : ∀ user ∈ scene.1.users, Text.trim user.email ≠ "")
    (sound : ∀ ticket ∈ scene.1.tickets, ticket.Unclaimed scene.1.users ∨
      ∃ user, ticket.Carries scene.1.users user) :
    (loadTickets endpoints left scene).2.2.1.users = scene.1.users ∧
      ∀ ticket ∈ (loadTickets endpoints left scene).2.2.1.tickets,
        ticket.Unclaimed scene.1.users ∨ ∃ user, ticket.Carries scene.1.users user := by
  obtain ⟨inquiries, result, after, next, loaded, -, -⟩ := loadTickets_asked endpoints left scene
  rw [loaded, kept_tickets]
  refine ⟨rfl, fun ticket member => ?_⟩
  rcases List.mem_append.mp member with old | new
  · exact sound ticket old
  · obtain ⟨⟨chain, record⟩, -, rfl⟩ := List.mem_map.mp new
    exact assigned_sound mailed chain.2 chain.1 record

/-- Every ticket carries the identity of the first user of its channel with its user's id, or
nobody's if there is none. -/
theorem tickets_carry_identities_of_users (endpoints : Endpoints) (left later : Nat)
    (snapshot : Snapshot) (w next : W) :
    let users := (loadUsers endpoints left (snapshot.forgetUsers.forgetTickets, w)).2.2.1
    let stored := (loadTickets endpoints later (users, next)).2.2.1
    (∀ user ∈ stored.users, Text.trim user.email ≠ "") ∧
      (∀ ticket ∈ stored.tickets, ticket.Unclaimed stored.users ∨
        ∃ user, ticket.Carries stored.users user) ∧
      ∀ address ∈ stored.emails,
        Text.trim address ≠ "" ∧ ∃ user ∈ stored.users, user.email = address := by
  intro users stored
  obtain ⟨fresh, mailed⟩ := loadUsers_mailed endpoints left
    (snapshot.forgetUsers.forgetTickets, w) (fun _ none => by cases none)
  obtain ⟨same, sound⟩ := loadTickets_sound endpoints later (users, next) mailed
    (fun ticket member => by rw [fresh] at member; cases member)
  have kept : stored.users = users.users := same
  rw [kept]
  refine ⟨mailed, sound, fun address listed => ?_⟩
  rw [Snapshot.emails, mem_distinct] at listed
  obtain ⟨ticket, member, rfl⟩ := List.mem_map.mp listed
  obtain ⟨held, assigned⟩ := List.mem_filter.mp member
  rcases sound ticket held with unclaimed | ⟨user, carries⟩
  · exact absurd (unclaimed.unassigned.symm.trans assigned) Bool.false_ne_true
  · rw [carries.email]
    exact ⟨mailed user carries.member, user, carries.member, rfl⟩

end Loading

end Download

end TicketReports
