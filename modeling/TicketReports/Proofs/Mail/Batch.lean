import TicketReports.Proofs.Access.Attempts
import TicketReports.Proofs.Mail.Letter
import TicketReports.Proofs.Report.Cells
import TicketReports.Proofs.Report.Folder

set_option autoImplicit false

namespace TicketReports

namespace Mail

/-- Every address that has tickets gets one message, in increasing order, with the table of the
workbook that is written for it. -/
structure EngineersTold (snapshot : Snapshot) (batch : List Message) : Prop where
  addressed : ∀ address, address ∈ batch.map Message.recipient ↔
    address ≠ "" ∧ ∃ ticket ∈ snapshot.tickets, ticket.userEmail = address
  increasing : (batch.map Message.recipient).Pairwise (· < ·)
  tables : List.Forall₂
    (fun message written =>
      written.1 = Report.engineerFile message.recipient ∧
        (∃ caption, message.html = Html.body caption written.2.header written.2.rows) ∧
        List.Forall₂ (Report.Tells written.2.header) (snapshot.ticketsOf message.recipient)
          written.2.rows)
    batch (Report.workbooks snapshot .fieldEngineers)

/-- Every recipient gets a message, in their order, and all have one table, with the rows of the
workbook. -/
structure DeskTold (mail : MailSettings) (snapshot : Snapshot) (batch : List Message) : Prop where
  addressed : batch.map Message.recipient = mail.serviceDesk
  table : ∃ file workbook rows caption,
    Report.workbooks snapshot .serviceDesk = [(file, workbook)] ∧ rows.Perm workbook.rows ∧
      List.Forall₂ (Report.TellsAssignee workbook.header) snapshot.tickets rows ∧
      ∀ message ∈ batch, message.html = Html.body caption workbook.header rows

def Told (mail : MailSettings) (snapshot : Snapshot) : Audience → List Message → Prop
  | .fieldEngineers => EngineersTold snapshot
  | .serviceDesk => DeskTold mail snapshot

def recipients (mail : MailSettings) (snapshot : Snapshot) : Audience → List String
  | .fieldEngineers => snapshot.emails
  | .serviceDesk => mail.serviceDesk

def carried : Audience → String → String
  | .fieldEngineers, address => Report.engineerFile address
  | .serviceDesk, _ => Report.serviceDeskFile

/-- The message comes from the sender and carries the file of its recipient as it is there. -/
structure Carries (mail : MailSettings) (dir : String) (audience : Audience) (folder : Folder)
    (message : Message) : Prop where
  sender : message.sender = mail.sender
  name : message.attachment.name = carried audience message.recipient
  content : folder.read dir (carried audience message.recipient) = .ok message.attachment.content
  plain : message.attachment.content ≠ .directory

def composed (mail : MailSettings) (snapshot : Snapshot) (audience : Audience)
    (recipient : String) (attachment : Attachment) : Message :=
  { sender := mail.sender
    recipient
    subject := match audience with
      | .fieldEngineers => "Open tickets assigned to " ++ recipient
      | .serviceDesk => "Open tickets of all channels"
    html := match audience with
      | .fieldEngineers => engineerBody snapshot recipient
      | .serviceDesk => deskBody snapshot
    stream := mail.stream
    attachment }

section Each

variable {ε α β : Type}

theorem forall₂_of_mapM_ok {read : α → Except ε β} {items : List α}
    {results : List β} (all : items.mapM read = .ok results) :
    List.Forall₂ (fun item result => read item = .ok result) items results := by
  induction items generalizing results with
  | nil => cases all; exact .nil
  | cons item rest ih =>
    rw [List.mapM_cons] at all
    cases head : read item with
    | error error => simp [head, bind, Except.bind] at all
    | ok result =>
      cases tail : rest.mapM read with
      | error error => simp [head, tail, bind, Except.bind] at all
      | ok later =>
        simp only [head, tail, bind, Except.bind, pure, Except.pure] at all
        cases all
        exact .cons head (ih tail)

theorem mapM_error {read : α → Except ε β} {items : List α} {error : ε}
    (failed : items.mapM read = .error error) :
    ∃ before item after, items = before ++ item :: after ∧
      (∀ earlier ∈ before, ∃ result, read earlier = .ok result) ∧ read item = .error error := by
  induction items with
  | nil => cases failed
  | cons item rest ih =>
    rw [List.mapM_cons] at failed
    cases head : read item with
    | error first =>
      simp only [head, bind, Except.bind] at failed
      cases failed
      exact ⟨[], item, rest, rfl, nofun, head⟩
    | ok result =>
      cases tail : rest.mapM read with
      | error later =>
        simp only [head, tail, bind, Except.bind] at failed
        cases failed
        obtain ⟨before, broken, after, rfl, fine, refused⟩ := ih tail
        exact ⟨item :: before, broken, after, rfl,
          List.forall_mem_cons.mpr ⟨⟨result, head⟩, fine⟩, refused⟩
      | ok results => simp [head, tail, bind, Except.bind, pure, Except.pure] at failed

theorem map_error {change : α → β} {result : Except ε α} {error : ε}
    (failed : result.map change = .error error) : result = .error error := by
  cases result with
  | error found => cases failed; rfl
  | ok value => cases failed

theorem map_ok {change : α → β} {result : Except ε α} {changed : β}
    (ok : result.map change = .ok changed) :
    ∃ value, result = .ok value ∧ change value = changed := by
  cases result with
  | error error => cases ok
  | ok value => cases ok; exact ⟨value, rfl, rfl⟩

end Each

section Composed

variable {mail : MailSettings} {dir : String} {audience : Audience} {snapshot : Snapshot}
  {folder : Folder}

theorem messages_eq : messages mail dir audience snapshot folder =
    (recipients mail snapshot audience).mapM fun recipient =>
      (attach dir (carried audience recipient) folder).map
        (composed mail snapshot audience recipient) := by
  cases audience with
  | fieldEngineers =>
    have each : engineerMessage mail dir snapshot folder = fun recipient =>
        (attach dir (Report.engineerFile recipient) folder).map
          (composed mail snapshot .fieldEngineers recipient) := by
      funext recipient
      unfold engineerMessage
      cases attach dir (Report.engineerFile recipient) folder <;> rfl
    rw [messages, engineerMessages, each]
    rfl
  | serviceDesk =>
    -- The one file is read for every recipient or, if there is none, for nobody.
    rw [messages, deskMessages, recipients]
    cases listed : mail.serviceDesk with
    | nil => rfl
    | cons first others =>
      simp only [carried]
      cases attached : attach dir Report.serviceDeskFile folder with
      | error error => rfl
      | ok attachment => exact (List.mapM_pure (m := Except MailError)).symm

theorem attach_error {name : String} {error : MailError}
    (refused : attach dir name folder = .error error) :
    ∃ reason, folder.read dir name = .error reason ∧
      error = .attachment (Report.joinPath dir name) reason.message := by
  unfold attach at refused
  split at refused
  next reason unread => cases refused; exact ⟨reason, unread, rfl⟩
  next => cases refused

theorem attach_ok {name : String} {attachment : Attachment}
    (attached : attach dir name folder = .ok attachment) :
    folder.read dir name = .ok attachment.content ∧ attachment.name = name := by
  unfold attach at attached
  split at attached
  next => cases attached
  next found => cases attached; exact ⟨found, rfl⟩

theorem messages_error {error : MailError}
    (failed : messages mail dir audience snapshot folder = .error error) :
    ∃ before recipient after reason,
      recipients mail snapshot audience = before ++ recipient :: after ∧
      (∀ earlier ∈ before, ∃ file, folder.read dir (carried audience earlier) = .ok file) ∧
      folder.read dir (carried audience recipient) = .error reason ∧
      error = .attachment (Report.joinPath dir (carried audience recipient)) reason.message := by
  obtain ⟨before, recipient, after, parts, fine, refused⟩ := mapM_error (messages_eq ▸ failed)
  obtain ⟨reason, unread, same⟩ := attach_error (map_error refused)
  refine ⟨before, recipient, after, reason, parts, fun earlier member => ?_, unread, same⟩
  obtain ⟨message, composed⟩ := fine earlier member
  obtain ⟨attachment, attached, -⟩ := map_ok composed
  exact ⟨attachment.content, (attach_ok attached).1⟩

theorem messages_ok {batch : List Message}
    (made : messages mail dir audience snapshot folder = .ok batch) :
    batch.map Message.recipient = recipients mail snapshot audience ∧
      (∀ recipient ∈ recipients mail snapshot audience,
        ∃ file, folder.read dir (carried audience recipient) = .ok file) ∧
      ∀ message ∈ batch, ∃ attachment,
        folder.read dir (carried audience message.recipient) = .ok attachment.content ∧
          attachment.name = carried audience message.recipient ∧
          composed mail snapshot audience message.recipient attachment = message := by
  have each := forall₂_of_mapM_ok (messages_eq ▸ made)
  clear made
  generalize recipients mail snapshot audience = addresses at each
  induction each with
  | nil => exact ⟨rfl, nofun, nofun⟩
  | cons head _ ih =>
    obtain ⟨attachment, attached, rfl⟩ := map_ok head
    obtain ⟨found, named⟩ := attach_ok attached
    exact ⟨congrArg _ ih.1, List.forall_mem_cons.mpr ⟨⟨attachment.content, found⟩, ih.2.1⟩,
      List.forall_mem_cons.mpr ⟨⟨attachment, found, named, rfl⟩, ih.2.2⟩⟩

theorem carries {batch : List Message}
    (made : messages mail dir audience snapshot folder = .ok batch) :
    ∀ message ∈ batch, Carries mail dir audience folder message := by
  intro message member
  obtain ⟨attachment, found, named, same⟩ := (messages_ok made).2.2 message member
  have attached : attachment = message.attachment := congrArg Message.attachment same
  rw [attached] at found named
  exact ⟨(congrArg Message.sender same).symm, named, found, (Folder.read_ok found).2⟩

theorem told {batch : List Message}
    (made : messages mail dir audience snapshot folder = .ok batch) :
    Told mail snapshot audience batch := by
  obtain ⟨addressed, -, composedEach⟩ := messages_ok made
  cases audience with
  | fieldEngineers =>
    have addresses : batch.map Message.recipient = snapshot.emails := addressed
    refine ⟨addresses ▸ snapshot.mem_emails, addresses ▸ snapshot.emails_increasing, ?_⟩
    rw [Report.workbooks, ← addresses, List.map_map, List.forall₂_map_right_iff,
      List.forall₂_same]
    intro message member
    obtain ⟨attachment, -, -, same⟩ := composedEach message member
    refine ⟨rfl, ⟨"Hi, below are open tickets currently assigned to you.",
      (congrArg Message.html same).symm⟩, ?_⟩
    exact List.forall₂_map_right_iff.mpr (List.forall₂_same.mpr fun ticket _ => ticket.cells_tell)
  | serviceDesk =>
    -- Mails have the tickets as they are stored, the sheet has them by channel.
    refine ⟨addressed, _, Report.deskWorkbook snapshot, snapshot.tickets.map Ticket.fullCells,
      "Hi, below are all open tickets.", rfl, (snapshot.ticketsByChannel_perm.map _).symm,
      List.forall₂_map_right_iff.mpr (List.forall₂_same.mpr fun ticket _ => ticket.fullCells_tell),
      ?_⟩
    intro message member
    obtain ⟨attachment, -, -, same⟩ := composedEach message member
    exact (congrArg Message.html same).symm

end Composed

section Sending

variable {W : Type} [Network W]

theorem post_net (mail : MailSettings) (timeout : Duration) (batch : List Message) (left : Nat)
    (w : W) : (post mail timeout batch left w).2.2 =
      ((request mail batch).attempt timeout left w).2.2 := by
  unfold post
  split
  next attempted => rw [attempted]
  next attempted => rw [attempted]
  next attempted => rw [attempted]

theorem send_made {mail : MailSettings} {dir : String} {audience : Audience} {snapshot : Snapshot}
    {folder : Folder} {batch : List Message}
    (made : messages mail dir audience snapshot folder = .ok batch) (timeout : Duration)
    (left : Nat) (w : W) :
    send mail timeout dir audience snapshot folder left w =
      if batch = [] then (.ok (), left, w) else post mail timeout batch left w := by
  rw [send, made]
  cases batch <;> rfl

end Sending

end Mail

end TicketReports
