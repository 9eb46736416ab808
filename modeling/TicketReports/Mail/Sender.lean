import TicketReports.Access.Request
import TicketReports.Download.Record
import TicketReports.Mail.Message

set_option autoImplicit false

namespace TicketReports.Mail

structure Verdict where
  recipient : String := ""
  messageId : String := ""
  code : Int := 0
  detail : String := ""
  deriving DecidableEq, Repr

def Verdict.ofJson? (value : Json) : Option Verdict := do
  match ← value.slots? ["To", "MessageID", "ErrorCode", "Message"] with
  | [recipient, messageId, code, detail] =>
    some
      { recipient := ← recipient.defaulting "" Json.text?
        messageId := ← messageId.defaulting "" Json.text?
        code := ← code.defaulting 0 Json.int64?
        detail := ← detail.defaulting "" Json.text? }
  | _ => none

def request (mail : MailSettings) (messages : List Message) : Request :=
  { method := .post
    url := mail.url
    headers := [("accept", "application/json"), ("x-postmark-server-token", mail.token.getD "")]
    body := some (.array (messages.map Message.toJson)) }

def decoded {α : Type} (read : Json → Option α) (reply : Reply) : Option α :=
  (reply.body.whole?.bind Json.ofBytes?).bind read

-- A mail that is not accepted does not make the batch fail.
def judged (reply : Reply) : Except MailError Unit :=
  if reply.status = 200 then
    match decoded (Json.list? Verdict.ofJson?) reply with
    | some _ => .ok ()
    | none => .error (.request "error decoding response body")
  else
    let verdict := (decoded Verdict.ofJson? reply).getD {}
    .error (.rejected reply.status verdict.code verdict.detail)

variable {W : Type} [Network W]

def post (mail : MailSettings) (timeout : Duration) (messages : List Message) :
    Timed MailError W Unit := fun left w =>
  match (request mail messages).attempt timeout left w with
  | (none, left, w) => (.error .cancelled, left, w)
  | (some (.error reason), left, w) => (.error (.request reason), left, w)
  | (some (.ok reply), left, w) => (judged reply, left, w)

def send (mail : MailSettings) (timeout : Duration) (dir : String) (audience : Audience)
    (snapshot : Snapshot) (folder : Folder) : Timed MailError W Unit := fun left w =>
  match messages mail dir audience snapshot folder with
  | .error error => (.error error, left, w)
  | .ok [] => (.ok (), left, w)
  | .ok messages => post mail timeout messages left w

end TicketReports.Mail
