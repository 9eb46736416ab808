import Mathlib.Data.List.Nodup
import Mathlib.Data.List.Perm.Subperm
import Mathlib.Logic.Relation
import TicketReports.Proofs.Download.Enrolment
import TicketReports.Proofs.Download.Parrot

set_option autoImplicit false

namespace TicketReports

namespace Paging

variable {ε W α κ : Type}

-- A full page leads to the page of its bookmark, an empty one if it has none.
def Leads (upstream : String → Except ε (ResultPage α)) (bookmark next : String) : Prop :=
  ∃ page, upstream bookmark = .ok page ∧ 10 ≤ page.records.length ∧ page.bookmark.getD "" = next

/-- Full pages lead from the empty bookmark to one from which they lead back to it. -/
def Circular (upstream : String → Except ε (ResultPage α)) : Prop :=
  ∃ bookmark, Relation.ReflTransGen (Leads upstream) "" bookmark ∧
    Relation.TransGen (Leads upstream) bookmark bookmark

/-- The answers are those of an upstream that answers by chain and bookmark alone, those apart that
the end of the time cut off. -/
def AnsweredInTime (cancelled : ε) (upstream : κ → String → Except ε (ResultPage α))
    (inquiries : List (Inquiry κ ε α)) : Prop :=
  ∀ inquiry ∈ inquiries,
    inquiry.answer = .error cancelled ∨ inquiry.answer = upstream inquiry.chain inquiry.bookmark

section Bookmarks

variable {cancelled : ε} {upstream : κ → String → Except ε (ResultPage α)} {chain : κ}
  {bookmark : String} {inquiries : List (Inquiry κ ε α)} {result : Except ε Unit}

theorem Chain.same (chained : Chain chain bookmark inquiries result) :
    ∀ inquiry ∈ inquiries, inquiry.chain = chain := by
  induction chained with
  | last | failed => exact List.forall_mem_singleton.mpr rfl
  | more _ _ ih => exact List.forall_mem_cons.mpr ⟨rfl, ih⟩

theorem Chain.answered (chained : Chain chain bookmark inquiries result)
    (timely : AnsweredInTime cancelled upstream inquiries) (uncut : result ≠ .error cancelled) :
    AnsweredBy upstream inquiries := by
  induction chained with
  | last =>
    obtain ⟨cut | answer, -⟩ := List.forall_mem_cons.mp timely
    · cases cut
    · exact List.forall_mem_singleton.mpr answer
  | more _ _ ih =>
    obtain ⟨cut | answer, later⟩ := List.forall_mem_cons.mp timely
    · cases cut
    · exact List.forall_mem_cons.mpr ⟨answer, ih later uncut⟩
  | failed error =>
    obtain ⟨cut | answer, -⟩ := List.forall_mem_cons.mp timely
    · cases cut
      exact absurd rfl uncut
    · exact List.forall_mem_singleton.mpr answer

theorem Chain.reaches (chained : Chain chain bookmark inquiries result)
    (timely : AnsweredInTime cancelled upstream inquiries) :
    ∀ inquiry ∈ inquiries,
      Relation.ReflTransGen (Leads (upstream chain)) bookmark inquiry.bookmark := by
  induction chained with
  | last | failed => exact List.forall_mem_singleton.mpr .refl
  | more full _ ih =>
    obtain ⟨cut | answer, later⟩ := List.forall_mem_cons.mp timely
    · cases cut
    · have leads : Leads (upstream chain) _ _ := ⟨_, answer.symm, full, rfl⟩
      exact List.forall_mem_cons.mpr
        ⟨.refl, fun inquiry member => (ih later inquiry member).head leads⟩

theorem Chain.apart (chained : Chain chain bookmark inquiries result)
    (timely : AnsweredInTime cancelled upstream inquiries)
    (reached : Relation.ReflTransGen (Leads (upstream chain)) "" bookmark)
    (onward : ¬Circular (upstream chain)) : (inquiries.map Inquiry.bookmark).Nodup := by
  induction chained with
  | last | failed => exact List.nodup_singleton _
  | more full rest ih =>
    obtain ⟨cut | answer, later⟩ := List.forall_mem_cons.mp timely
    · cases cut
    · have leads : Leads (upstream chain) _ _ := ⟨_, answer.symm, full, rfl⟩
      refine List.nodup_cons.mpr ⟨fun again => ?_, ih later (reached.tail leads)⟩
      -- A later inquiry with this bookmark is reached from the page it leads to: a way back.
      obtain ⟨inquiry, member, same⟩ := List.mem_map.mp again
      have back := rest.reaches later inquiry member
      rw [same] at back
      exact onward ⟨_, reached, .head' leads back⟩

theorem Chain.bounded (chained : Chain chain "" inquiries result)
    (timely : AnsweredInTime cancelled upstream inquiries)
    (onward : ¬Circular (upstream chain)) {names : List String}
    (finite : ∀ bookmark next, Leads (upstream chain) bookmark next → next ∈ names) :
    inquiries.length ≤ names.length + 1 := by
  -- Only the first bookmark is one that no page led to.
  have among : inquiries.map Inquiry.bookmark ⊆ "" :: names := by
    intro bookmark member
    obtain ⟨inquiry, asked, rfl⟩ := List.mem_map.mp member
    rcases (chained.reaches timely inquiry asked).cases_tail with same | ⟨before, -, leads⟩
    · exact same ▸ List.mem_cons_self
    · exact List.mem_cons_of_mem _ (finite before _ leads)
  have distinct := chained.apart timely .refl onward
  simpa using (List.subperm_of_subset distinct among).length_le

theorem Chain.follows {next : String} (chained : Chain chain bookmark inquiries result)
    (answered : AnsweredBy upstream inquiries) (leads : Leads (upstream chain) bookmark next) :
    ∃ later, Chain chain next later result ∧ AnsweredBy upstream later ∧
      later.length < inquiries.length := by
  obtain ⟨page, answer, full, rfl⟩ := leads
  cases chained with
  | last short =>
    cases (answered _ List.mem_cons_self).trans answer
    omega
  | more _ rest =>
    cases (answered _ List.mem_cons_self).trans answer
    exact ⟨_, rest, (List.forall_mem_cons.mp answered).2, Nat.lt_succ_self _⟩
  | failed error => cases (answered _ List.mem_cons_self).trans answer

theorem Chain.follows_on {next : String} (chained : Chain chain bookmark inquiries result)
    (answered : AnsweredBy upstream inquiries)
    (leads : Relation.TransGen (Leads (upstream chain)) bookmark next) :
    ∃ later, Chain chain next later result ∧ AnsweredBy upstream later ∧
      later.length < inquiries.length := by
  induction leads with
  | single leads => exact chained.follows answered leads
  | tail _ leads ih =>
    obtain ⟨middle, chained, answered, shorter⟩ := ih
    obtain ⟨later, rest, others, less⟩ := chained.follows answered leads
    exact ⟨later, rest, others, Nat.lt_trans less shorter⟩

theorem Chain.onward (chained : Chain chain "" inquiries result)
    (answered : AnsweredBy upstream inquiries) : ¬Circular (upstream chain) := by
  rintro ⟨bookmark, reached, back⟩
  have arrives : ∃ others, Chain chain bookmark others result ∧ AnsweredBy upstream others := by
    rcases Relation.reflTransGen_iff_eq_or_transGen.mp reached with rfl | leads
    · exact ⟨inquiries, chained, answered⟩
    · obtain ⟨others, rest, alike, -⟩ := chained.follows_on answered leads
      exact ⟨others, rest, alike⟩
  obtain ⟨others, rest, alike⟩ := arrives
  -- From a bookmark on there is one chain, but once round it would be shorter than itself.
  obtain ⟨again, round, same, shorter⟩ := rest.follows_on alike back
  obtain ⟨rfl, -⟩ := round.determined rest same alike
  exact Nat.lt_irrefl _ shorter

end Bookmarks

def Affordable (cancelled : ε) (cost : Nat) (ask : String → Timed ε W (ResultPage α)) : Prop :=
  ∀ bookmark left w,
    (cost < left → (ask bookmark left w).1 ≠ .error cancelled) ∧
      ((ask bookmark left w).1 ≠ .error cancelled → left ≤ (ask bookmark left w).2.1 + cost)

section Time

variable {cancelled : ε} {cost : Nat} {ask : κ → String → Timed ε W (ResultPage α)} {chain : κ}
  {bookmark : String} {inquiries : List (Inquiry κ ε α)} {result : Except ε Unit}
  {left after : Nat} {w next : W}

theorem Chain.uncut (affordable : Affordable cancelled cost (ask chain))
    (chained : Chain chain bookmark inquiries result)
    (asked : Asked ask inquiries left w after next) (ample : inquiries.length * cost < left) :
    result ≠ .error cancelled := by
  induction chained generalizing left w with
  | last => exact nofun
  | more _ _ ih =>
    rw [List.length_cons, Nat.succ_mul] at ample
    cases asked with
    | next asked rest =>
      obtain ⟨-, within⟩ := affordable _ left w
      rw [asked] at within
      -- What this inquiry leaves is enough for all the others.
      have spent := within nofun
      exact ih rest (by dsimp only at spent; omega)
  | failed error =>
    rw [List.length_singleton, Nat.one_mul] at ample
    cases asked with
    | next asked rest =>
      have uncut := congrArg Prod.fst asked ▸ (affordable _ left w).1 ample
      exact fun cut => uncut (by cases cut; rfl)

end Time

/-- What becomes of a chain that an upstream answers by bookmark alone. -/
structure Led (upstream : String → Except ε (ResultPage α)) (cancelled : ε) (endpoint : Endpoint)
    (left : Nat) (inquiries : List (Inquiry κ ε α)) (result : Except ε Unit) : Prop where
  apart : ¬Circular upstream → (inquiries.map Inquiry.bookmark).Nodup
  ends : ¬Circular upstream → ∀ names : List String,
    (∀ bookmark next, Leads upstream bookmark next → next ∈ names) →
      inquiries.length ≤ names.length + 1 ∧
        (endpoint.policy.maxRetries.toNat + 1 < UInt32.size →
          (names.length + 1) * endpoint.allowance < left → result ≠ .error cancelled)
  round : Circular upstream → result = .error cancelled

structure Followed [Network W] (ask : κ → String → Timed ε W (ResultPage α))
    (asks : κ → String → Request → Prop) (read : Json → Option α) (cancelled : ε)
    (endpoint : Endpoint) (chain : κ) (inquiries : List (Inquiry κ ε α)) (left : Nat) (w : W)
    (result : Except ε Unit) (after : Nat) (next : W) : Prop where
  asked : Asked ask inquiries left w after next
  posed : Posed asks read inquiries w next
  chained : Chain chain "" inquiries result
  led : ∀ upstream, AnsweredInTime cancelled upstream inquiries →
    Led (upstream chain) cancelled endpoint left inquiries result

theorem trail_followed {σ : Type} [Network W] (ask : κ → String → Timed ε W (ResultPage α))
    {asks : κ → String → Request → Prop} {read : Json → Option α}
    (posed : ∀ {inquiries left w after next}, Asked ask inquiries left w after next →
      Posed (W := W) asks read inquiries w next)
    (keep : κ → List α → σ → σ) (timeUp : κ → ε) (costly : Costly ask)
    (idle : ∀ chain store, keep chain [] store = store) (endpoint : Endpoint) (chain : κ)
    (affordable : endpoint.policy.maxRetries.toNat + 1 < UInt32.size →
      Affordable (timeUp chain) endpoint.allowance (ask chain)) (left : Nat) (s : σ × W) :
    ∃ inquiries result after next,
      trail ask keep timeUp chain left s = (result, after, (kept keep inquiries s.1, next)) ∧
      Followed ask asks read (timeUp chain) endpoint chain inquiries left s.2 result after
        next := by
  obtain ⟨inquiries, result, after, next, followed, chained, asked⟩ :=
    follow_asked timeUp costly idle chain "" left s
  refine ⟨inquiries, result, after, next, followed, asked, posed asked, chained,
    fun upstream timely => ?_⟩
  constructor
  case apart => exact chained.apart timely .refl
  case ends =>
    intro onward names finite
    have few := chained.bounded timely onward finite
    refine ⟨few, fun bounded ample => chained.uncut (affordable bounded) asked ?_⟩
    exact Nat.lt_of_le_of_lt (Nat.mul_le_mul_right _ few) ample
  case round =>
    intro circular
    by_contra uncut
    exact chained.onward (chained.answered timely uncut) circular

end Paging

namespace Download

open Paging

section Page

variable {W α : Type} [Network W] {what : Download} {read : Json → Option α}

theorem decoded_cancelled {result : Except AccessError Reply} :
    decoded what read result = .error (.access what .cancelled) ↔ result = .error .cancelled := by
  constructor
  · intro cut
    unfold decoded at cut
    split at cut
    next => cases cut; rfl
    next => split at cut <;> cases cut
  · rintro rfl
    rfl

theorem page_affordable {endpoint : Endpoint} {channel : String} {query : String → Json}
    (bounded : endpoint.policy.maxRetries.toNat + 1 < UInt32.size) :
    Affordable (W := W) (.access what .cancelled) endpoint.allowance
      (page what endpoint channel query read) := by
  intro bookmark left w
  constructor
  · intro ample cut
    exact Endpoint.call_uncancelled bounded ample (decoded_cancelled.mp cut)
  · intro uncut
    exact Endpoint.call_within bounded fun cut => uncut (decoded_cancelled.mpr cut)

end Page

section Loading

variable {W : Type} [Network W]

theorem usersOf_followed (endpoints : Endpoints) (channel : Channel) (left : Nat)
    (scene : Scene W) :
    ∃ inquiries result after next,
      usersOf endpoints.users channel left scene =
        (result, after, (kept addUsers inquiries scene.1, next)) ∧
      Followed (userPage endpoints) (Query.ForUsers endpoints) UserRecord.ofJson?
        (.access .users .cancelled) endpoints.users channel inquiries left scene.2 result after
        next := by
  rw [usersOf_eq]
  exact trail_followed _ users_posed _ _ (fun _ _ _ _ _ _ _ asked => page_costs asked)
    addUsers_nil _ _ page_affordable left scene

theorem ticketsOf_followed (endpoints : Endpoints) (chain : Channel × TicketKind) (left : Nat)
    (scene : Scene W) :
    ∃ inquiries result after next,
      ticketsOf endpoints chain left scene =
        (result, after, (kept addTickets inquiries scene.1, next)) ∧
      Followed (ticketPage endpoints) (Query.ForTickets endpoints) TicketRecord.ofJson?
        (.access chain.2.download .cancelled) (endpoints.ofTickets chain.2) chain inquiries left
        scene.2 result after next := by
  rw [ticketsOf_eq]
  exact trail_followed _ tickets_posed _ _ (fun _ _ _ _ _ _ _ asked => page_costs asked)
    addTickets_nil _ _ page_affordable left scene

/-- No bookmark is asked for twice, and finitely many are an end in sight, unless full pages lead
back to a bookmark they came from. -/
theorem chains_end_unless_led_back (endpoints : Endpoints) (left : Nat) (snapshot : Snapshot)
    (w : W) :
    (∀ channel : Channel, ∃ inquiries result after users next,
      usersOf endpoints.users channel left (snapshot, w) =
        (result, after, ({ snapshot with users := snapshot.users ++ users }, next)) ∧
      Followed (userPage endpoints) (Query.ForUsers endpoints) UserRecord.ofJson?
        (.access .users .cancelled) endpoints.users channel inquiries left w result after next ∧
      List.Forall₂ Enrols ((received inquiries).filter fun source => source.2.IsMailable) users) ∧
    ∀ chain : Channel × TicketKind, ∃ inquiries result after tickets next,
      ticketsOf endpoints chain left (snapshot, w) =
        (result, after, ({ snapshot with tickets := snapshot.tickets ++ tickets }, next)) ∧
      Followed (ticketPage endpoints) (Query.ForTickets endpoints) TicketRecord.ofJson?
        (.access chain.2.download .cancelled) (endpoints.ofTickets chain.2) chain inquiries left w
        result after next ∧
      List.Forall₂ Stems (received inquiries) tickets := by
  constructor
  · intro channel
    obtain ⟨inquiries, result, after, next, loaded, followed⟩ :=
      usersOf_followed endpoints channel left (snapshot, w)
    rw [kept_users] at loaded
    exact ⟨inquiries, result, after, _, next, loaded, followed, enrolled_enrols _⟩
  · intro chain
    obtain ⟨inquiries, result, after, next, loaded, followed⟩ :=
      ticketsOf_followed endpoints chain left (snapshot, w)
    rw [kept_tickets] at loaded
    exact ⟨inquiries, result, after, _, next, loaded, followed, stem _ _⟩

end Loading

section Wheel

def wheel : ResultPage TicketRecord :=
  { records := ["1", "2", "3", "4", "5", "6", "7", "8", "9", "10"].map fun number => { number } }

def wheelBytes : List UInt8 :=
  let records := wheel.records.map fun record => "\x7b\"number\":\"" ++ record.number ++ "\"\x7d"
  Shelf.ascii ("\x7b\"result\":[" ++ ",".intercalate records ++ "]\x7d")

theorem wheelBytes_read :
    (Json.ofBytes? wheelBytes).bind (ResultPage.ofJson? TicketRecord.ofJson?) = some wheel := by
  decide +kernel

/-- A full page without a bookmark is followed by itself, although the empty bookmark is the only
one there is. -/
theorem page_without_bookmark_is_stored_again :
    let chain : Channel × TicketKind := (⟨"c1", "One"⟩, .incident)
    let upstream : Channel × TicketKind → String → Except DownloadError (ResultPage TicketRecord) :=
      fun _ _ => .ok wheel
    let cancelled := DownloadError.access .incidents .cancelled
    (∀ bookmark next, Leads (upstream chain) bookmark next → next = "") ∧
      (∃ inquiries after tickets next,
        ticketsOf Shelf.desks chain 2 ({}, ({} : Parrot wheelBytes)) =
          (.error cancelled, after, ({ tickets := tickets ++ tickets }, next)) ∧
        tickets.length = 10 ∧ Asked (ticketPage Shelf.desks) inquiries 2 {} after next ∧
        AnsweredInTime cancelled upstream inquiries ∧
        ¬(inquiries.map Inquiry.bookmark).Nodup) ∧
      ∀ left,
        (ticketsOf Shelf.desks chain left ({}, ({} : Parrot wheelBytes))).1 =
          .error cancelled := by
  intro chain upstream cancelled
  have whole (left : Nat) (bookmark : String) (w : Parrot wheelBytes) :
      ticketPage Shelf.desks chain bookmark (left + 1) w = (.ok wheel, left, _) :=
    Parrot.page_eq Shelf.desk_whole wheelBytes_read .incidents bookmark left w
  have cut (bookmark : String) (w : Parrot wheelBytes) :
      ticketPage Shelf.desks chain bookmark 0 w = (.error cancelled, 0, w) :=
    Parrot.page_zero .incidents bookmark w
  have back : Leads (upstream chain) "" "" := ⟨wheel, rfl, by decide, rfl⟩
  refine ⟨?_, ?_, fun left => ?_⟩
  · rintro bookmark next ⟨page, same, -, rfl⟩
    cases same
    rfl
  · have first := beside_of ({} : Snapshot) (whole 1 "" {})
    have second (w) := beside_of (addTickets chain wheel.records {}) (whole 0 "" w)
    have third (w) :=
      beside_of (addTickets chain wheel.records (addTickets chain wheel.records {})) (cut "" w)
    refine ⟨_, 0, wheel.records.map (assigned {} .incident chain.1), _, ?_, rfl,
      .next (whole 1 "" {}) (.next (whole 0 "" _) (.next (cut "" _) (.nothing 0 _))), ?_, ?_⟩
    · rw [ticketsOf_eq, trail, follow_more first rfl (by decide)]
      refine (follow_more (second _) rfl (by decide)).trans ?_
      exact follow_failed (third _)
    · intro inquiry member
      simp only [List.mem_cons, List.not_mem_nil, or_false] at member
      rcases member with rfl | rfl | rfl
      · exact .inr rfl
      · exact .inr rfl
      · exact .inl rfl
    · decide
  · obtain ⟨inquiries, result, after, next, loaded, followed⟩ :=
      ticketsOf_followed Shelf.desks chain left ({}, ({} : Parrot wheelBytes))
    have timely : AnsweredInTime cancelled upstream inquiries := by
      intro inquiry member
      obtain ⟨before, found, rest, later, came⟩ := followed.asked.answers inquiry member
      rw [followed.chained.same inquiry member] at came
      cases before with
      | zero => exact .inl (congrArg Prod.fst (came.symm.trans (cut _ found)))
      | succ before => exact .inr (congrArg Prod.fst (came.symm.trans (whole before _ found)))
    rw [loaded]
    exact (followed.led upstream timely).round ⟨"", .refl, .single back⟩

end Wheel

end Download

end TicketReports
