import Mathlib.Data.List.Forall2
import TicketReports.Mail.Sender

set_option autoImplicit false

namespace TicketReports

structure Enclosure where
  name : String
  content : Json
  type : String

structure Letter where
  sender : String
  recipient : String
  subject : String
  html : String
  text : String
  stream : Option String
  enclosures : List Enclosure

def Enclosure.ofJson? (value : Json) : Option Enclosure := do
  match ← value.slots? ["Name", "Content", "ContentType"] with
  | [name, content, type] =>
    some
      { name := ← name.required Json.text?
        content := ← content.required some
        type := ← type.required Json.text? }
  | _ => none

def Letter.ofJson? (value : Json) : Option Letter := do
  match ← value.slots? ["From", "To", "Subject", "HtmlBody", "TextBody", "MessageStream",
      "Attachments"] with
  | [sender, recipient, subject, html, text, stream, enclosures] =>
    some
      { sender := ← sender.required Json.text?
        recipient := ← recipient.required Json.text?
        subject := ← subject.required Json.text?
        html := ← html.required Json.text?
        text := ← text.required Json.text?
        stream := ← stream.lenient Json.text?
        enclosures := ← enclosures.required (Json.list? Enclosure.ofJson?) }
  | _ => none

def Json.sheets? (value : Json) : Option (List String × List (List String)) := do
  match ← value.slots? ["sheet", "rows"] with
  | [sheets, rows] =>
    some (← sheets.required (Json.list? Json.text?),
      ← rows.required (Json.list? (Json.list? Json.text?)))
  | _ => none

def Enclosure.Holds (enclosure : Enclosure) : File → Prop
  | .workbook held => enclosure.content.sheets? = some ([held.sheet], held.lines)
  | .text value => enclosure.content.text? = some value
  | .directory => False

/-- The letter is the message: from whom to whom, what it shows and the one file it carries. -/
structure Letter.Conveys (letter : Letter) (message : Message) : Prop where
  sender : letter.sender = message.sender
  recipient : letter.recipient = message.recipient
  subject : letter.subject = message.subject
  html : letter.html = message.html
  text : letter.text = message.subject
  stream : letter.stream.getD "" = message.stream
  enclosed : ∃ enclosure, letter.enclosures = [enclosure] ∧
    enclosure.name = message.attachment.name ∧
    enclosure.type = "application/vnd.openxmlformats-officedocument.spreadsheetml.sheet" ∧
    (message.attachment.content ≠ .directory → enclosure.Holds message.attachment.content)

theorem Json.list?_map {α β : Type} {read : Json → Option β} {write : α → Json} (make : α → β)
    (inverse : ∀ item, read (write item) = some (make item)) (items : List α) :
    Json.list? read (.array (items.map write)) = some (items.map make) := by
  induction items with
  | nil => rfl
  | cons item rest ih =>
    rw [Json.list?] at ih ⊢
    rw [List.map_cons, List.mapM_cons, inverse, ih]
    rfl

theorem Json.list?_texts (values : List String) :
    Json.list? Json.text? (.array (values.map Json.ofText)) = some values := by
  have each := @Json.list?_map _ _ Json.text? Json.ofText id (fun _ => rfl) values
  rwa [List.map_id] at each

theorem Workbook.sheets?_toJson (workbook : Workbook) :
    workbook.toJson.sheets? = some ([workbook.sheet], workbook.lines) := by
  have rows : Json.list? (Json.list? Json.text?)
      (.array (workbook.lines.map fun line => .array (line.map Json.ofText))) =
        some workbook.lines := by
    have each := Json.list?_map id Json.list?_texts workbook.lines
    rwa [List.map_id] at each
  have placed : workbook.toJson.slots? ["sheet", "rows"] =
      some [.given (.array [.ofText workbook.sheet]),
        .given (.array (workbook.lines.map fun line => .array (line.map Json.ofText)))] := rfl
  rw [Json.sheets?, placed, Option.bind_eq_bind, Option.bind_some]
  dsimp only
  rw [Json.Slot.required, Json.Slot.required, rows]
  rfl

def Attachment.enclosure (attachment : Attachment) : Enclosure :=
  { name := attachment.name
    content := attachment.content.toJson
    type := "application/vnd.openxmlformats-officedocument.spreadsheetml.sheet" }

def Message.letter (message : Message) : Letter :=
  { sender := message.sender
    recipient := message.recipient
    subject := message.subject
    html := message.html
    text := message.subject
    stream := if message.stream = "" then none else some message.stream
    enclosures := [message.attachment.enclosure] }

theorem Message.ofJson?_toJson (message : Message) :
    Letter.ofJson? message.toJson = some message.letter := by
  unfold toJson letter
  split <;> rfl

theorem Attachment.enclosure_holds (attachment : Attachment)
    (plain : attachment.content ≠ .directory) : attachment.enclosure.Holds attachment.content := by
  obtain ⟨name, content⟩ := attachment
  cases content with
  | workbook value => exact value.sheets?_toJson
  | text value => rfl
  | directory => exact absurd rfl plain

theorem Message.letter_conveys (message : Message) : message.letter.Conveys message where
  sender := rfl
  recipient := rfl
  subject := rfl
  html := rfl
  text := rfl
  stream := by
    rw [letter]
    dsimp only
    split
    next none => rw [none]; rfl
    next => rfl
  enclosed := ⟨_, rfl, rfl, rfl, message.attachment.enclosure_holds⟩

namespace Mail

/-- The request posts a batch to the mail service: one letter for each of its messages. -/
structure Posts (mail : MailSettings) (batch : List Message) (request : Request) : Prop where
  method : request.method.name = "POST"
  url : request.url = mail.url
  token : ("x-postmark-server-token", mail.token.getD "") ∈ request.headers
  letters : ∃ letters, request.body.bind (Json.list? Letter.ofJson?) = some letters ∧
    List.Forall₂ Letter.Conveys letters batch

theorem request_posts (mail : MailSettings) (batch : List Message) :
    Posts mail batch (request mail batch) where
  method := rfl
  url := rfl
  token := List.mem_cons_of_mem _ List.mem_cons_self
  letters := by
    refine ⟨_, Json.list?_map Message.letter Message.ofJson?_toJson batch, ?_⟩
    exact List.forall₂_map_left_iff.mpr
      (List.forall₂_same.mpr fun message _ => message.letter_conveys)

end Mail

end TicketReports
