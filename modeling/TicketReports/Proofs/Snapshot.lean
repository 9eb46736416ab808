import Mathlib.Data.List.Pairwise
import TicketReports.Snapshot

set_option autoImplicit false

namespace TicketReports

@[simp] theorem mem_insertDistinct (text other : String) (texts : List String) :
    other ∈ insertDistinct text texts ↔ other = text ∨ other ∈ texts := by
  induction texts with
  | nil => simp [insertDistinct]
  | cons head rest ih =>
    unfold insertDistinct
    split
    next => simp
    next =>
      split
      next same => simp [same]
      next =>
        rw [List.mem_cons, ih, List.mem_cons]
        exact or_left_comm

theorem insertDistinct_increasing (text : String) (texts : List String)
    (increasing : texts.Pairwise (· < ·)) : (insertDistinct text texts).Pairwise (· < ·) := by
  induction texts with
  | nil => simp [insertDistinct]
  | cons head rest ih =>
    obtain ⟨below, tail⟩ := List.pairwise_cons.mp increasing
    unfold insertDistinct
    split
    next smaller =>
      refine List.pairwise_cons.mpr ⟨fun other member => ?_, increasing⟩
      rcases List.mem_cons.mp member with rfl | later
      · exact smaller
      · exact String.lt_trans smaller (below other later)
    next not_smaller =>
      split
      next => exact increasing
      next different =>
        refine List.pairwise_cons.mpr ⟨fun other member => ?_, ih tail⟩
        rcases (mem_insertDistinct text other rest).mp member with rfl | later
        · -- The order is total, so what is neither smaller nor equal is greater.
          refine Classical.byContradiction fun not_greater => different ?_
          exact String.le_antisymm (String.not_lt.mp not_greater) (String.not_lt.mp not_smaller)
        · exact below other later

@[simp] theorem mem_distinct (texts : List String) (text : String) :
    text ∈ distinct texts ↔ text ∈ texts := by
  induction texts with
  | nil => simp [distinct]
  | cons head rest ih =>
    rw [distinct, List.foldr_cons, mem_insertDistinct, List.mem_cons]
    exact or_congr Iff.rfl ih

theorem distinct_increasing (texts : List String) : (distinct texts).Pairwise (· < ·) := by
  induction texts with
  | nil => exact .nil
  | cons head rest ih => exact insertDistinct_increasing head _ ih

theorem distinct_nodup (texts : List String) : (distinct texts).Nodup := by
  refine (distinct_increasing texts).imp fun {first second} smaller same => ?_
  exact String.lt_irrefl second (same ▸ smaller)

section Grouped

variable {α κ : Type} [BEq κ] [LawfulBEq κ] {keys : List κ} {key : α → κ}
  {arrange : List α → List α} {entries : List α}

def grouped (keys : List κ) (key : α → κ) (arrange : List α → List α) (entries : List α) : List α :=
  keys.flatMap fun k => arrange (entries.filter fun entry => key entry == k)

section Among

variable (among : ∀ part : List α, arrange part ⊆ part)
include among

theorem mem_part {k : κ} {entry : α}
    (member : entry ∈ arrange (entries.filter fun entry => key entry == k)) :
    entry ∈ entries ∧ key entry = k := by
  obtain ⟨held, same⟩ := List.mem_filter.mp (among _ member)
  exact ⟨held, eq_of_beq same⟩

theorem grouped_subset : grouped keys key arrange entries ⊆ entries := by
  intro entry member
  obtain ⟨k, -, part⟩ := List.mem_flatMap.mp member
  exact (mem_part among part).1

theorem filter_grouped (unique : keys.Nodup) (covered : ∀ entry ∈ entries, key entry ∈ keys)
    {p : α → Bool} {k : κ} (one : ∀ entry, p entry = true → key entry = k)
    (stable : ∀ part : List α, (arrange part).filter p = part.filter p) :
    (grouped keys key arrange entries).filter p = entries.filter p := by
  have outside : ∀ others : List κ, k ∉ others → (others.flatMap fun other =>
      (arrange (entries.filter fun entry => key entry == other)).filter p) = [] := by
    intro others absent
    refine List.flatMap_eq_nil_iff.mpr fun other listed => ?_
    refine List.filter_eq_nil_iff.mpr fun entry member holds => absent ?_
    exact (one entry holds).symm.trans (mem_part among member).2 ▸ listed
  have own : (arrange (entries.filter fun entry => key entry == k)).filter p =
      entries.filter p := by
    rw [stable, List.filter_filter]
    refine List.filter_congr fun entry _ => ?_
    by_cases holds : p entry = true
    · simp [holds, one entry holds]
    · simp [holds]
  rw [grouped, List.filter_flatMap]
  -- Of all groups only the one of `k` has entries that pass, and no key has two groups.
  by_cases member : k ∈ keys
  · obtain ⟨before, after, rfl⟩ := List.append_of_mem member
    obtain ⟨-, right, apart⟩ := List.nodup_append.mp unique
    have left : k ∉ before := fun early => apart k early k List.mem_cons_self rfl
    rw [List.flatMap_append, List.flatMap_cons, outside before left,
      outside after (List.nodup_cons.mp right).1, own, List.nil_append, List.append_nil]
  · rw [outside keys member]
    refine (List.filter_eq_nil_iff.mpr fun entry held holds => member ?_).symm
    exact one entry holds ▸ covered entry held

theorem pairwise_grouped {R : α → α → Prop}
    (inside : ∀ k ∈ keys, (arrange (entries.filter fun entry => key entry == k)).Pairwise R)
    (across : keys.Pairwise fun k other =>
      ∀ a ∈ entries, ∀ b ∈ entries, key a = k → key b = other → R a b) :
    (grouped keys key arrange entries).Pairwise R := by
  rw [grouped, List.pairwise_flatMap]
  refine ⟨inside, across.imp fun apart a first b second => ?_⟩
  obtain ⟨held, here⟩ := mem_part among first
  obtain ⟨other, there⟩ := mem_part among second
  exact apart a held b other here there

end Among

theorem perm_of_filter [BEq α] [LawfulBEq α] {before after : List α}
    (same : ∀ entry, after.filter (· == entry) = before.filter (· == entry)) :
    after.Perm before := by
  refine List.perm_iff_count.mpr fun entry => ?_
  rw [List.count_eq_length_filter, List.count_eq_length_filter, same]

end Grouped

namespace Ticket

/-- The order of the service desk's sheet: by channel, in a channel by address, and incidents before
requests. -/
def Before (a b : Ticket) : Prop :=
  a.channelId < b.channelId ∨ a.channelId = b.channelId ∧
    (a.userEmail < b.userEmail ∨ a.userEmail = b.userEmail ∧ a.kind.rank ≤ b.kind.rank)

def level (a b : Ticket) : Bool :=
  b.channelId == a.channelId && b.userEmail == a.userEmail && b.kind == a.kind

theorem level_iff (a b : Ticket) : a.level b = true ↔
    b.channelId = a.channelId ∧ b.userEmail = a.userEmail ∧ b.kind = a.kind := by
  simp [level, and_assoc]

end Ticket

/-- The sheet lists every stored ticket once, in order; tickets that the order does not tell apart
stand as they were stored. -/
structure Arranged (stored sheet : List Ticket) : Prop where
  all : sheet.Perm stored
  ordered : sheet.Pairwise Ticket.Before
  stable : ∀ model : Ticket, sheet.filter model.level = stored.filter model.level

namespace Snapshot

def byAddress (tickets : List Ticket) : List Ticket :=
  grouped (distinct (tickets.map Ticket.userEmail)) Ticket.userEmail byKind tickets

theorem byKind_eq (tickets : List Ticket) :
    byKind tickets = grouped TicketKind.all Ticket.kind id tickets :=
  rfl

theorem ticketsByChannel_eq (snapshot : Snapshot) : snapshot.ticketsByChannel =
    grouped snapshot.channelIds Ticket.channelId byAddress snapshot.tickets :=
  rfl

theorem byKind_subset (tickets : List Ticket) : byKind tickets ⊆ tickets := by
  rw [byKind_eq]
  exact grouped_subset List.Subset.refl

theorem byAddress_subset (tickets : List Ticket) : byAddress tickets ⊆ tickets :=
  grouped_subset byKind_subset

theorem mem_kinds (kind : TicketKind) : kind ∈ TicketKind.all := by cases kind <;> decide

theorem covered_distinct (key : Ticket → String) (tickets : List Ticket) :
    ∀ ticket ∈ tickets, key ticket ∈ distinct (tickets.map key) :=
  fun _ member => (mem_distinct _ _).mpr (List.mem_map_of_mem member)

section Stable

variable {p : Ticket → Bool} (model : Ticket)
  (one : ∀ ticket, p ticket = true → model.level ticket = true)
include one

theorem filter_byKind (tickets : List Ticket) : (byKind tickets).filter p = tickets.filter p := by
  rw [byKind_eq]
  exact filter_grouped List.Subset.refl (by decide) (fun ticket _ => mem_kinds ticket.kind)
    (fun ticket holds => ((model.level_iff ticket).mp (one ticket holds)).2.2) fun _ => rfl

theorem filter_byAddress (tickets : List Ticket) :
    (byAddress tickets).filter p = tickets.filter p :=
  filter_grouped byKind_subset (distinct_nodup _) (covered_distinct _ tickets)
    (fun ticket holds => ((model.level_iff ticket).mp (one ticket holds)).2.1)
    (filter_byKind model one)

theorem filter_ticketsByChannel (snapshot : Snapshot) :
    snapshot.ticketsByChannel.filter p = snapshot.tickets.filter p := by
  rw [ticketsByChannel_eq]
  exact filter_grouped byAddress_subset (distinct_nodup _) (covered_distinct _ snapshot.tickets)
    (fun ticket holds => ((model.level_iff ticket).mp (one ticket holds)).1)
    (filter_byAddress model one)

end Stable

theorem level_of_beq {model ticket : Ticket} (same : (ticket == model) = true) :
    model.level ticket = true := by
  rw [eq_of_beq same, Ticket.level_iff]
  exact ⟨rfl, rfl, rfl⟩

theorem ticketsByChannel_perm (snapshot : Snapshot) :
    snapshot.ticketsByChannel.Perm snapshot.tickets :=
  perm_of_filter fun model => filter_ticketsByChannel model (fun _ => level_of_beq) snapshot

theorem byKind_ordered {channelId address : String} {tickets : List Ticket}
    (same : ∀ ticket ∈ tickets, ticket.channelId = channelId ∧ ticket.userEmail = address) :
    (byKind tickets).Pairwise Ticket.Before := by
  have before : ∀ a ∈ tickets, ∀ b ∈ tickets, a.kind.rank ≤ b.kind.rank → a.Before b := by
    intro a first b second ranked
    obtain ⟨channel, email⟩ := same a first
    obtain ⟨otherChannel, otherEmail⟩ := same b second
    exact .inr ⟨channel.trans otherChannel.symm, .inr ⟨email.trans otherEmail.symm, ranked⟩⟩
  have ranks : TicketKind.all.Pairwise fun kind other => kind.rank ≤ other.rank := by decide
  rw [byKind_eq]
  refine pairwise_grouped List.Subset.refl (fun kind _ => ?_) (ranks.imp ?_)
  · refine List.pairwise_of_forall_mem_list fun a first b second => ?_
    obtain ⟨held, here⟩ := mem_part List.Subset.refl first
    obtain ⟨other, there⟩ := mem_part List.Subset.refl second
    exact before a held b other (Nat.le_of_eq (congrArg TicketKind.rank (here.trans there.symm)))
  · rintro kind other ranked a first b second rfl rfl
    exact before a first b second ranked

theorem byAddress_ordered {channelId : String} {tickets : List Ticket}
    (same : ∀ ticket ∈ tickets, ticket.channelId = channelId) :
    (byAddress tickets).Pairwise Ticket.Before := by
  refine pairwise_grouped byKind_subset (fun address _ => ?_) ((distinct_increasing _).imp ?_)
  · have level : ∀ ticket ∈ tickets.filter (fun ticket => ticket.userEmail == address),
        ticket.channelId = channelId ∧ ticket.userEmail = address := by
      intro ticket member
      obtain ⟨held, here⟩ := List.mem_filter.mp member
      exact ⟨same ticket held, eq_of_beq here⟩
    exact byKind_ordered level
  · rintro address other smaller a first b second rfl rfl
    exact .inr ⟨(same a first).trans (same b second).symm, .inl smaller⟩

theorem ticketsByChannel_ordered (snapshot : Snapshot) :
    snapshot.ticketsByChannel.Pairwise Ticket.Before := by
  rw [ticketsByChannel_eq]
  refine pairwise_grouped byAddress_subset (fun channelId _ => ?_)
    ((distinct_increasing _).imp ?_)
  · exact byAddress_ordered fun ticket member => eq_of_beq (List.mem_filter.mp member).2
  · rintro channelId other smaller a - b - rfl rfl
    exact .inl smaller

theorem ticketsByChannel_arranged (snapshot : Snapshot) :
    Arranged snapshot.tickets snapshot.ticketsByChannel :=
  ⟨snapshot.ticketsByChannel_perm, snapshot.ticketsByChannel_ordered,
    fun model => filter_ticketsByChannel model (fun _ level => level) snapshot⟩

theorem byKind_perm (tickets : List Ticket) : (byKind tickets).Perm tickets :=
  perm_of_filter fun model => filter_byKind model (fun _ => level_of_beq) tickets

theorem ticketsOf_perm (snapshot : Snapshot) (email : String) :
    (snapshot.ticketsOf email).Perm
      (snapshot.tickets.filter fun ticket => ticket.userEmail == email) :=
  byKind_perm _

theorem ticketsOf_eq (snapshot : Snapshot) (email : String) :
    snapshot.ticketsOf email =
      snapshot.tickets.filter (fun ticket =>
          ticket.kind == .incident && ticket.userEmail == email) ++
        snapshot.tickets.filter fun ticket =>
          ticket.kind == .request && ticket.userEmail == email := by
  rw [ticketsOf, byKind, TicketKind.all, List.flatMap_cons, List.flatMap_cons, List.flatMap_nil,
    List.append_nil, List.filter_filter, List.filter_filter]

theorem mem_emails (snapshot : Snapshot) (email : String) :
    email ∈ snapshot.emails ↔
      email ≠ "" ∧ ∃ ticket ∈ snapshot.tickets, ticket.userEmail = email := by
  rw [emails, mem_distinct, List.mem_map]
  constructor
  · rintro ⟨ticket, member, rfl⟩
    obtain ⟨held, assigned⟩ := List.mem_filter.mp member
    exact ⟨bne_iff_ne.mp assigned, ticket, held, rfl⟩
  · rintro ⟨named, ticket, held, rfl⟩
    exact ⟨ticket, List.mem_filter.mpr ⟨held, bne_iff_ne.mpr named⟩, rfl⟩

theorem emails_increasing (snapshot : Snapshot) : snapshot.emails.Pairwise (· < ·) :=
  distinct_increasing _

theorem ticketsOf_emails_perm (snapshot : Snapshot) :
    (snapshot.emails.flatMap snapshot.ticketsOf).Perm
      (snapshot.tickets.filter Ticket.isAssigned) := by
  have parts : snapshot.emails.flatMap snapshot.ticketsOf =
      grouped snapshot.emails Ticket.userEmail byKind
        (snapshot.tickets.filter Ticket.isAssigned) := by
    refine congrArg List.flatten (List.map_congr_left fun email listed => congrArg byKind ?_)
    rw [List.filter_filter]
    refine List.filter_congr fun ticket _ => ?_
    by_cases same : ticket.userEmail = email
    · have named := ((snapshot.mem_emails email).mp listed).1
      simp [same, Ticket.isAssigned, named]
    · simp [same]
  rw [parts]
  -- Tickets that are equal have one address, so that a filter for one ticket finds one group.
  exact perm_of_filter fun model => filter_grouped byKind_subset (distinct_nodup _)
    (covered_distinct _ _) (fun ticket same => congrArg _ (eq_of_beq same))
    (filter_byKind model fun _ => level_of_beq)

theorem emails_nodup (snapshot : Snapshot) : snapshot.emails.Nodup := distinct_nodup _

end Snapshot

end TicketReports
