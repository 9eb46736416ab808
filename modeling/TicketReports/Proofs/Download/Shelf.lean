import TicketReports.Proofs.Access.Attempts
import TicketReports.Proofs.Download.Queries

set_option autoImplicit false

namespace TicketReports

/-- A ticket service that gives a query the page which begins at the bookmark it reads in it, and
the requests that reached it. -/
structure Shelf (pages : String → List UInt8) where
  met : List Request := []

namespace Shelf

variable {pages : String → List UInt8}

def hear (w : Shelf pages) (request : Request) : Shelf pages := { met := w.met ++ [request] }

def bookmark (body : Option Json) : String :=
  (body.bind Query.Terms.ofJson?).elim "" Query.Terms.bookmark

instance : Network (Shelf pages) where
  token w := (.ok "t0k", w)
  send request w :=
    let page := pages (bookmark request.body)
    ({ took := 0, reply := some { status := 200, body := ⟨[page], false⟩ } }, w.hear request)

theorem isLog : Network.IsLog (@met pages) := ⟨fun _ => rfl, fun _ _ => rfl⟩

theorem bookmark_of_asks {endpoint : Endpoint} {channel : String} {terms : Query.Terms}
    {request : Request} (asks : Query.Asks endpoint channel terms request) :
    bookmark request.body = terms.bookmark := by
  rw [bookmark, asks.body, Option.elim_some]

theorem serves {κ α : Type} {asks : κ → String → Request → Prop}
    (told : ∀ chain name request, asks chain name request → bookmark request.body = name)
    (read : Json → Option α) :
    Paging.Serves (Shelf pages) asks read fun _ name =>
      (Json.ofBytes? (pages name)).bind (ResultPage.ofJson? read) := by
  intro chain name request w reply asked replied _
  cases replied
  have whole : (Body.mk [pages (bookmark request.body)] false).whole? = some (pages name) := by
    simp [Body.whole?, Body.bytes, told chain name request asked]
  rw [whole, Option.bind_some]

theorem call_eq {endpoint : Endpoint} {method : Method} {channel : String} {body : Option Json}
    (whole : (endpoint.request method channel body "t0k").isWhole = true) (left : Nat)
    (w : Shelf pages) :
    endpoint.call method channel body (left + 1) w =
      (.ok { status := 200, body := ⟨[pages (bookmark body)], false⟩ }, left,
        w.hear (endpoint.request method channel body "t0k")) := by
  cases address : (endpoint.request method channel body "t0k").address with
  | error reason => simp [Request.isWhole, address, Except.toOption] at whole
  | ok url =>
    rw [Endpoint.call, Endpoint.callFrom]
    simp [Endpoint.trial, Network.token, Network.send, Request.attempt, address]
    rfl

def ascii (text : String) : List UInt8 := text.toList.map fun c => UInt8.ofNat c.toNat

def desks : Endpoints :=
  { channels := .desk, users := .desk, incidents := .desk, requests := .desk }

theorem ofTickets_desks (kind : TicketKind) : desks.ofTickets kind = .desk := by
  cases kind <;> rfl

theorem desk_whole : (Endpoint.desk.request .query "c1" none "t0k").isWhole = true := by
  decide +kernel

end Shelf

end TicketReports
