import TicketReports.Download.Paging

set_option autoImplicit false

namespace TicketReports

namespace Paging

variable {ε σ W α κ : Type}

/-- A page of a chain that was asked for, and what came of it. -/
structure Inquiry (κ ε α : Type) where
  chain : κ
  bookmark : String
  answer : Except ε (ResultPage α)

namespace Inquiry

def records (inquiry : Inquiry κ ε α) : List α :=
  match inquiry.answer with
  | .ok page => page.records
  | .error _ => []

end Inquiry

/-- What came of asking, one after the other and from a world on: each inquiry finds the world as
the one before left it. -/
inductive Asked (ask : κ → String → Timed ε W (ResultPage α)) :
    List (Inquiry κ ε α) → Nat → W → Nat → W → Prop
  | nothing (left : Nat) (w : W) : Asked ask [] left w left w
  | next {chain : κ} {bookmark : String} {answer : Except ε (ResultPage α)}
      {left after last : Nat} {w between final : W} {later : List (Inquiry κ ε α)}
      (asked : ask chain bookmark left w = (answer, after, between))
      (rest : Asked ask later after between last final) :
      Asked ask (⟨chain, bookmark, answer⟩ :: later) left w last final

def received (inquiries : List (Inquiry κ ε α)) : List (κ × α) :=
  inquiries.flatMap fun inquiry => inquiry.records.map fun record => (inquiry.chain, record)

theorem received_cons (inquiry : Inquiry κ ε α) (later : List (Inquiry κ ε α)) :
    received (inquiry :: later) =
      (inquiry.records.map fun record => (inquiry.chain, record)) ++ received later :=
  List.flatMap_cons

/-- The inquiries of a chain from a bookmark on, up to a page with less than ten records or a
failure. -/
inductive Chain (chain : κ) : String → List (Inquiry κ ε α) → Except ε Unit → Prop
  | last {bookmark : String} {page : ResultPage α} (short : page.records.length < 10) :
      Chain chain bookmark [⟨chain, bookmark, .ok page⟩] (.ok ())
  | more {bookmark : String} {page : ResultPage α} {later : List (Inquiry κ ε α)}
      {result : Except ε Unit} (full : 10 ≤ page.records.length)
      (rest : Chain chain (page.bookmark.getD "") later result) :
      Chain chain bookmark (⟨chain, bookmark, .ok page⟩ :: later) result
  | failed {bookmark : String} (error : ε) :
      Chain chain bookmark [⟨chain, bookmark, .error error⟩] (.error error)

/-- The inquiries of chains one after the other, each from an empty bookmark on. -/
inductive Round : List κ → List (Inquiry κ ε α) → Except ε Unit → Prop
  | done : Round [] [] (.ok ())
  | next {chain : κ} {chains : List κ} {first later : List (Inquiry κ ε α)}
      {result : Except ε Unit} (whole : Chain chain "" first (.ok ()))
      (rest : Round chains later result) : Round (chain :: chains) (first ++ later) result
  | failed {chain : κ} {chains : List κ} {first : List (Inquiry κ ε α)} {error : ε}
      (broken : Chain chain "" first (.error error)) : Round (chain :: chains) first (.error error)

def AnsweredBy (upstream : κ → String → Except ε (ResultPage α))
    (inquiries : List (Inquiry κ ε α)) : Prop :=
  ∀ inquiry ∈ inquiries, inquiry.answer = upstream inquiry.chain inquiry.bookmark

section Determined

variable {upstream : κ → String → Except ε (ResultPage α)} {inquiries others : List (Inquiry κ ε α)}
  {result outcome : Except ε Unit}

theorem AnsweredBy.head {chain : κ} {bookmark : String} {answer other : Except ε (ResultPage α)}
    (answered : AnsweredBy upstream (⟨chain, bookmark, answer⟩ :: inquiries))
    (alike : AnsweredBy upstream (⟨chain, bookmark, other⟩ :: others)) : answer = other :=
  (answered _ List.mem_cons_self).trans (alike _ List.mem_cons_self).symm

theorem AnsweredBy.split (answered : AnsweredBy upstream (inquiries ++ others)) :
    AnsweredBy upstream inquiries ∧ AnsweredBy upstream others :=
  List.forall_mem_append.mp answered

theorem Chain.determined {chain : κ} {bookmark : String}
    (first : Chain chain bookmark inquiries result) (second : Chain chain bookmark others outcome)
    (answered : AnsweredBy upstream inquiries) (alike : AnsweredBy upstream others) :
    others = inquiries ∧ outcome = result := by
  -- Both ask for the same page first and get the same answer, which says whether they go on.
  induction first generalizing others with
  | last short =>
    cases second with
    | last => cases answered.head alike; exact ⟨rfl, rfl⟩
    | more full => cases answered.head alike; omega
    | failed error => cases answered.head alike
  | more full _ ih =>
    cases second with
    | last short => cases answered.head alike; omega
    | more _ rest =>
      cases answered.head alike
      obtain ⟨rfl, rfl⟩ :=
        ih rest (List.forall_mem_cons.mp answered).2 (List.forall_mem_cons.mp alike).2
      exact ⟨rfl, rfl⟩
    | failed error => cases answered.head alike
  | failed error =>
    cases second with
    | last => cases answered.head alike
    | more => cases answered.head alike
    | failed => cases answered.head alike; exact ⟨rfl, rfl⟩

/-- An upstream that answers by chain and bookmark alone leaves no choice of inquiries. -/
theorem Round.determined {chains : List κ} (first : Round chains inquiries result)
    (second : Round chains others outcome) (answered : AnsweredBy upstream inquiries)
    (alike : AnsweredBy upstream others) : others = inquiries ∧ outcome = result := by
  induction first generalizing others with
  | done => cases second; exact ⟨rfl, rfl⟩
  | next whole _ ih =>
    obtain ⟨answered, later⟩ := answered.split
    cases second with
    | next again rest =>
      obtain ⟨alike, others⟩ := alike.split
      obtain ⟨rfl, -⟩ := whole.determined again answered alike
      obtain ⟨rfl, rfl⟩ := ih rest later others
      exact ⟨rfl, rfl⟩
    | failed broken => cases (whole.determined broken answered alike).2
  | failed broken =>
    cases second with
    | next whole rest => cases (broken.determined whole answered alike.split.1).2
    | failed again =>
      obtain ⟨rfl, same⟩ := broken.determined again answered alike
      exact ⟨rfl, same⟩

end Determined

theorem Asked.append {ask : κ → String → Timed ε W (ResultPage α)}
    {first later : List (Inquiry κ ε α)} {left after last : Nat} {w between final : W}
    (asked : Asked ask first left w after between)
    (rest : Asked ask later after between last final) :
    Asked ask (first ++ later) left w last final := by
  induction asked with
  | nothing left w => exact rest
  | next asked _ ih => exact .next asked (ih rest)

theorem Asked.answers {ask : κ → String → Timed ε W (ResultPage α)}
    {inquiries : List (Inquiry κ ε α)} {left after : Nat} {w next : W}
    (asked : Asked ask inquiries left w after next) :
    ∀ inquiry ∈ inquiries, ∃ before found rest later,
      ask inquiry.chain inquiry.bookmark before found = (inquiry.answer, rest, later) := by
  induction asked with
  | nothing => exact fun _ none => by cases none
  | next asked _ ih => exact List.forall_mem_cons.mpr ⟨⟨_, _, _, _, asked⟩, ih⟩

def beside {β : Type} (ask : Timed ε W β) : Timed ε (σ × W) β := fun left (store, w) =>
  let (answer, after, next) := ask left w
  (answer, after, (store, next))

theorem beside_eq {β : Type} {ask : Timed ε W β} {left after : Nat} {s next : σ × W}
    {answer : Except ε β} (asked : beside ask left s = (answer, after, next)) :
    next.1 = s.1 ∧ ask left s.2 = (answer, after, next.2) := by
  cases asked
  exact ⟨rfl, rfl⟩

theorem beside_of {β : Type} {ask : Timed ε W β} {left after : Nat} {w next : W}
    {answer : Except ε β} (store : σ) (asked : ask left w = (answer, after, next)) :
    beside ask left (store, w) = (answer, after, (store, next)) := by
  rw [beside, asked]

def kept (keep : κ → List α → σ → σ) (inquiries : List (Inquiry κ ε α)) (store : σ) : σ :=
  inquiries.foldl (fun store inquiry => keep inquiry.chain inquiry.records store) store

theorem kept_cons (keep : κ → List α → σ → σ) (inquiry : Inquiry κ ε α)
    (later : List (Inquiry κ ε α)) (store : σ) :
    kept keep (inquiry :: later) store =
      kept keep later (keep inquiry.chain inquiry.records store) :=
  rfl

theorem kept_append (keep : κ → List α → σ → σ) (first later : List (Inquiry κ ε α)) (store : σ) :
    kept keep (first ++ later) store = kept keep later (kept keep first store) :=
  List.foldl_append

def Costly (ask : κ → String → Timed ε W (ResultPage α)) : Prop :=
  ∀ ⦃chain bookmark left w page after next⦄,
    ask chain bookmark left w = (.ok page, after, next) → after < left

section Follow

variable {ask : κ → String → Timed ε W (ResultPage α)} {keep : κ → List α → σ → σ}
  (timeUp : κ → ε)

def trail (ask : κ → String → Timed ε W (ResultPage α)) (keep : κ → List α → σ → σ)
    (timeUp : κ → ε) (chain : κ) : Timed ε (σ × W) Unit :=
  follow (timeUp chain) (fun bookmark => beside (ask chain bookmark))
    (fun records s => (keep chain records s.1, s.2)) ""

variable (costly : Costly ask) (idle : ∀ chain store, keep chain [] store = store)
include costly idle

theorem follow_asked (chain : κ) (bookmark : String) (left : Nat) (s : σ × W) :
    ∃ inquiries result after next,
      follow (timeUp chain) (fun bookmark => beside (ask chain bookmark))
          (fun records s => (keep chain records s.1, s.2)) bookmark left s =
        (result, after, (kept keep inquiries s.1, next)) ∧
      Chain chain bookmark inquiries result ∧ Asked ask inquiries left s.2 after next := by
  fun_induction follow (timeUp chain) (fun bookmark => beside (ask chain bookmark))
    (fun records s => (keep chain records s.1, s.2)) bookmark left s with
  | case1 bookmark left s error after next fetched =>
    obtain ⟨same, asked⟩ := beside_eq fetched
    refine ⟨_, _, _, _, ?_, .failed error, .next asked (.nothing _ _)⟩
    rw [kept, List.foldl_cons, List.foldl_nil, Inquiry.records, idle, ← same]
  | case2 bookmark left s page after next fetched stored last =>
    obtain ⟨same, asked⟩ := beside_eq fetched
    refine ⟨_, _, _, _, ?_, .last (of_decide_eq_true last), .next asked (.nothing _ _)⟩
    rw [kept, List.foldl_cons, List.foldl_nil, Inquiry.records, ← same]
  | case3 bookmark left s page after next fetched stored more less ih =>
    obtain ⟨same, asked⟩ := beside_eq fetched
    obtain ⟨inquiries, result, last, final, followed, chained, rest⟩ := ih
    have full : 10 ≤ page.records.length :=
      Nat.le_of_not_lt fun short => more (decide_eq_true short)
    refine ⟨_, _, _, _, followed.trans ?_, .more full chained, .next asked rest⟩
    rw [kept, kept, List.foldl_cons, Inquiry.records, ← same]
  | case4 bookmark left s page after next fetched stored more spent =>
    -- Time does not run out between two pages.
    obtain ⟨same, asked⟩ := beside_eq fetched
    exact absurd (costly asked) spent

theorem each_asked (chains : List κ) (left : Nat) (s : σ × W) :
    ∃ inquiries result after next,
      each (trail ask keep timeUp) chains left s =
        (result, after, (kept keep inquiries s.1, next)) ∧
      Round chains inquiries result ∧ Asked ask inquiries left s.2 after next := by
  induction chains generalizing left s with
  | nil => exact ⟨[], _, _, _, rfl, .done, .nothing left s.2⟩
  | cons chain chains ih =>
    obtain ⟨first, result, after, next, followed, chained, asked⟩ :=
      follow_asked timeUp costly idle chain "" left s
    rw [each, trail, followed]
    cases result with
    | error error => exact ⟨first, _, _, _, rfl, .failed chained, asked⟩
    | ok value =>
      obtain ⟨later, result, last, final, rest, round, others⟩ :=
        ih after (kept keep first s.1, next)
      refine ⟨first ++ later, _, _, _, ?_, .next chained round, asked.append others⟩
      rw [kept_append]
      exact rest

end Follow

end Paging

end TicketReports
