import TicketReports.Proofs.Download.Received

set_option autoImplicit false

namespace TicketReports

namespace Paging

variable {ε S α : Type} {timeUp : ε} {fetch : String → Timed ε S (ResultPage α)}
  {keep : List α → S → S} {bookmark : String} {left after : Nat} {s next : S} {page : ResultPage α}

theorem follow_failed {error : ε} (fetched : fetch bookmark left s = (.error error, after, next)) :
    follow timeUp fetch keep bookmark left s = (.error error, after, next) := by
  rw [follow, fetched]

theorem follow_more (fetched : fetch bookmark left s = (.ok page, after, next))
    (more : page.isLast = false) (less : after < left) :
    follow timeUp fetch keep bookmark left s =
      follow timeUp fetch keep (page.bookmark.getD "") after (keep page.records next) := by
  rw [follow, fetched]
  simp only [more, Bool.false_eq_true, if_false, less, if_true]

theorem each_cons {β : Type} {chain : β → Timed ε S Unit} {item : β} (rest : List β)
    (done : chain item left s = (.ok (), after, next)) :
    each chain (item :: rest) left s = each chain rest after next := by
  rw [each, done]

theorem trail_last {W κ σ : Type} {ask : κ → String → Timed ε W (ResultPage α)}
    {keep : κ → List α → σ → σ} {timeUp : κ → ε} {chain : κ} {w between : W} (store : σ)
    (asked : ask chain "" left w = (.ok page, after, between)) (last : page.isLast = true) :
    trail ask keep timeUp chain left (store, w) =
      (.ok (), after, (keep chain page.records store, between)) := by
  rw [trail, follow, beside_of store asked]
  simp only [last, if_true]

end Paging

abbrev Parrot (answer : List UInt8) := Shelf fun _ => answer

namespace Parrot

variable {answer : List UInt8}

theorem page_eq {α : Type} {endpoint : Endpoint} {channel : String} {query : String → Json}
    {read : Json → Option α} {found : ResultPage α}
    (whole : (endpoint.request .query channel none "t0k").isWhole = true)
    (decodes : (Json.ofBytes? answer).bind (ResultPage.ofJson? read) = some found)
    (what : Download) (bookmark : String) (left : Nat) (w : Parrot answer) :
    Download.page what endpoint channel query read bookmark (left + 1) w =
      (.ok found, left,
        w.hear (endpoint.request .query channel (some (query bookmark)) "t0k")) := by
  -- Whether a request can be put together does not depend on its body.
  have sent : (endpoint.request .query channel (some (query bookmark)) "t0k").isWhole = true :=
    whole
  rw [Download.page, Endpoint.query, Shelf.call_eq sent left w]
  simp [Download.decoded, Body.whole?, Body.bytes, decodes]

theorem page_zero {α : Type} {endpoint : Endpoint} {channel : String} {query : String → Json}
    {read : Json → Option α} (what : Download) (bookmark : String) (w : Parrot answer) :
    Download.page what endpoint channel query read bookmark 0 w =
      (.error (.access what .cancelled), 0, w) := by
  rw [Download.page, Endpoint.query, Endpoint.call, Endpoint.callFrom]
  rfl

end Parrot

end TicketReports
