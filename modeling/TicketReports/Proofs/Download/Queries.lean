import TicketReports.Download.Basic
import TicketReports.Proofs.Access.Sent
import TicketReports.Proofs.Download.Paging

set_option autoImplicit false

namespace TicketReports

def Json.only? {α : Type} (name : String) (read : Json → Option α) (value : Json) : Option α := do
  match ← value.slots? [name] with
  | [slot] => slot.required read
  | _ => none

namespace Query

/-- What a query says: where the page begins that it asks for, what it wants to know of a record,
and in which states it wants none. -/
structure Terms where
  bookmark : String
  fields : List String
  without : List Int := []
  deriving DecidableEq, Repr

def Terms.ofJson? (value : Json) : Option Terms := do
  match ← value.slots? ["bookmark", "fields", "selector"] with
  | [bookmark, fields, selector] =>
    some
      { bookmark := ← bookmark.required Json.text?
        fields := ← fields.required (Json.list? Json.text?)
        without := ← selector.defaulting []
          (Json.only? "$and" (Json.list? (Json.only? "state_id" (Json.only? "$ne" Json.int?)))) }
  | _ => none

/-- The request puts a query of these terms to an endpoint, for a channel unless it has no name. -/
structure Asks (endpoint : Endpoint) (channel : String) (terms : Terms) (request : Request) :
    Prop where
  method : request.method.name = "OPTIONS"
  url : request.url = endpoint.url
  tenant : ∀ value, ("grpc-metadata-space", value) ∈ request.headers ↔
    channel ≠ "" ∧ value = channel
  body : request.body.bind Terms.ofJson? = some terms

def userTerms (bookmark : String) : Terms :=
  { bookmark, fields := ["uuid", "full_name", "email", "type", "org_display_name"] }

def ticketTerms (bookmark : String) : Terms :=
  { bookmark
    fields :=
      ["uuid", "number", "short_description", "state_id", "location", "created_at", "assigned_to"]
    without := [4, 5, 6] }

theorem users_terms (bookmark : String) :
    Terms.ofJson? (users bookmark) = some (userTerms bookmark) := rfl

theorem tickets_terms (bookmark : String) :
    Terms.ofJson? (tickets bookmark) = some (ticketTerms bookmark) := rfl

def ForUsers (endpoints : Endpoints) (channel : Channel) (bookmark : String) : Request → Prop :=
  Asks endpoints.users channel.id (userTerms bookmark)

def ForTickets (endpoints : Endpoints) : Channel × TicketKind → String → Request → Prop
  | (channel, .incident), bookmark => Asks endpoints.incidents channel.id (ticketTerms bookmark)
  | (channel, .request), bookmark => Asks endpoints.requests channel.id (ticketTerms bookmark)

theorem request_asks {query : Json} {terms : Terms} (said : Terms.ofJson? query = some terms)
    (endpoint : Endpoint) (channel token : String) :
    Asks endpoint channel terms (endpoint.request .query channel (some query) token) :=
  ⟨rfl, rfl, fun value => Endpoint.tenant_header endpoint .query channel (some query) token value,
    said⟩

end Query

namespace Paging

variable {ε W α κ : Type}

/-- The requests of inquiries, those of each one together. An inquiry may have none only if no page
came of it. -/
inductive Sent (asks : κ → String → Request → Prop) :
    List (Inquiry κ ε α) → List Request → Prop
  | nothing : Sent asks [] []
  | next {inquiry : Inquiry κ ε α} {later : List (Inquiry κ ε α)} {requests rest : List Request}
      (each : ∀ request ∈ requests, asks inquiry.chain inquiry.bookmark request)
      (came : ∀ page, inquiry.answer = .ok page → requests ≠ []) (others : Sent asks later rest) :
      Sent asks (inquiry :: later) (requests ++ rest)

theorem Asked.sent {asks : κ → String → Request → Prop}
    {ask : κ → String → Timed ε W (ResultPage α)} {log : W → List Request}
    (each : ∀ chain bookmark left w, ∃ requests,
      (∀ request ∈ requests, asks chain bookmark request) ∧
      log (ask chain bookmark left w).2.2 = log w ++ requests ∧
      ∀ page, (ask chain bookmark left w).1 = .ok page → requests ≠ [])
    {inquiries : List (Inquiry κ ε α)} {left after : Nat} {w next : W}
    (asked : Asked ask inquiries left w after next) :
    ∃ requests, log next = log w ++ requests ∧ Sent asks inquiries requests := by
  induction asked with
  | nothing left w => exact ⟨[], (List.append_nil _).symm, .nothing⟩
  | @next chain bookmark answer left after last w between final later asked _ ih =>
    obtain ⟨requests, own, grown, came⟩ := each chain bookmark left w
    obtain ⟨rest, more, others⟩ := ih
    rw [asked] at grown came
    refine ⟨requests ++ rest, ?_, .next own came others⟩
    rw [more, grown, List.append_assoc]

section Network

variable [Network W]

/-- A request for a page gets that page if it gets a reply of status 200. -/
def Serves (W : Type) [Network W] (asks : κ → String → Request → Prop) (read : Json → Option α)
    (pages : κ → String → Option (ResultPage α)) : Prop :=
  ∀ chain bookmark request (w : W) reply, asks chain bookmark request →
    (Network.send request w).1.reply = some reply → reply.status = 200 →
      (reply.body.whole?.bind Json.ofBytes?).bind (ResultPage.ofJson? read) = pages chain bookmark

/-- What inquiries are on the network: the requests that reach it from one world to another ask for
the pages one after the other, and the pages that come are those that it has there. -/
structure Posed (asks : κ → String → Request → Prop) (read : Json → Option α)
    (inquiries : List (Inquiry κ ε α)) (w next : W) : Prop where
  sent : ∀ log : W → List Request, Network.IsLog log →
    ∃ requests, log next = log w ++ requests ∧ Sent asks inquiries requests
  served : ∀ pages, Serves W asks read pages → ∀ inquiry ∈ inquiries, ∀ page,
    inquiry.answer = .ok page → pages inquiry.chain inquiry.bookmark = some page

end Network

end Paging

end TicketReports
