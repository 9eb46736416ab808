import Mathlib.Data.List.Nodup
import TicketReports.Pipeline.Live
import TicketReports.Pipeline.Plan
import TicketReports.Proofs.Failing
import TicketReports.Proofs.Mail.Batch

set_option autoImplicit false

namespace TicketReports

def File.title? : File → Option String
  | .workbook held => some held.title
  | _ => none

namespace Message

/-- The message carries the workbook of its recipient: their title, their tickets, no others. -/
def Own (snapshot : Snapshot) (message : Message) : Prop :=
  ∃ workbook, message.attachment.content = .workbook workbook ∧
    workbook.title = "Tickets for " ++ message.recipient ∧
    workbook.rows.Perm
      ((snapshot.tickets.filter fun ticket => ticket.userEmail == message.recipient).map
        Ticket.cells)

theorem own_of_content {snapshot : Snapshot} {message : Message}
    (content : message.attachment.content =
      .workbook (Report.engineerWorkbook snapshot message.recipient)) : message.Own snapshot :=
  ⟨_, content, rfl, (snapshot.ticketsOf_perm message.recipient).map Ticket.cells⟩

theorem recipient_eq_of_own {snapshot : Snapshot} {first second : Message}
    (firstOwn : first.Own snapshot) (secondOwn : second.Own snapshot)
    (same : first.attachment.content = second.attachment.content) :
    first.recipient = second.recipient := by
  obtain ⟨workbook, held, title, _⟩ := firstOwn
  obtain ⟨other, otherHeld, otherTitle, _⟩ := secondOwn
  have content : File.workbook workbook = .workbook other :=
    held.symm.trans (same.trans otherHeld)
  cases content
  exact (String.append_right_inj _).mp (title.symm.trans otherTitle)

theorem title_of_own {snapshot : Snapshot} {message : Message} (own : message.Own snapshot) :
    message.attachment.content.title? = some ("Tickets for " ++ message.recipient) := by
  obtain ⟨workbook, held, title, _⟩ := own
  rw [held, File.title?, title]

theorem not_own_of_desk {snapshot : Snapshot} {message : Message}
    (content : message.attachment.content = .workbook (Report.deskWorkbook snapshot)) :
    ¬message.Own snapshot := by
  rintro ⟨workbook, held, title, _⟩
  rw [content] at held
  cases held
  have letters := congrArg (fun text : String => text.toList.head?) title
  simp [Report.deskWorkbook, String.toList_append] at letters

end Message

/-- No two workbooks of a job are written to one file. -/
def JobKind.Apart (kind : JobKind) (snapshot : Snapshot) : Prop :=
  (snapshot.emails.map Report.engineerFile).Nodup ∧
    (kind.includes .serviceDesk = true →
      Report.serviceDeskFile ∉ snapshot.emails.map Report.engineerFile)

namespace Mail

theorem engineerMessages_ok {mail : MailSettings} {dir : String} {snapshot : Snapshot}
    {folder : Folder} {batch : List Message}
    (made : messages mail dir .fieldEngineers snapshot folder = .ok batch) :
    batch.map Message.recipient = snapshot.emails ∧
      ∀ message ∈ batch, folder.entries.lookup (Report.engineerFile message.recipient) =
        some message.attachment.content := by
  exact ⟨(messages_ok made).1, fun message member =>
    (Folder.read_ok (carries made message member).content).1⟩

end Mail

namespace Live

variable {W : Type} [Network W]

inductive Done : List Step → Live W → Live W → Prop
  | nil (live : Live W) : Done [] live live
  | cons (step : Step) (rest : List Step) (left after : Nat) (live next last : Live W)
      (ran : run step left live = (.ok (), after, next)) (later : Done rest next last) :
      Done (step :: rest) live last

theorem Done.split {first later : List Step} {before after : Live W}
    (done : Done (first ++ later) before after) :
    ∃ middle, Done first before middle ∧ Done later middle after := by
  induction first generalizing before with
  | nil => exact ⟨before, .nil before, done⟩
  | cons step rest ih =>
    cases done with
    | cons _ _ left spent _ next _ ran others =>
      obtain ⟨middle, start, finish⟩ := ih others
      exact ⟨middle, .cons step rest left spent before next middle ran start, finish⟩

theorem Done.single {step : Step} {before after : Live W} (done : Done [step] before after) :
    ∃ left rest, run step left before = (.ok (), rest, after) := by
  cases done with
  | cons _ _ left rest _ _ _ ran none =>
    cases none
    exact ⟨left, rest, ran⟩

theorem report_ok {audience : Audience} {left rest : Nat} {live next : Live W}
    (ran : run (.report audience) left live = (.ok (), rest, next)) :
    ∃ folder, Report.write live.settings.reportsDir audience live.snapshot left live.folder =
      (.ok (), rest, folder) ∧ next = { live with folder } := by
  simp only [run, report, Prod.mk.injEq] at ran
  obtain ⟨ok, rfl, rfl⟩ := ran
  exact ⟨_, Prod.ext (mapError_eq_ok.mp ok) rfl, rfl⟩

theorem mail_ok {audience : Audience} {left rest : Nat} {live next : Live W}
    (ran : run (.mail audience) left live = (.ok (), rest, next)) :
    ∃ net, Mail.send live.settings.mail live.settings.requestTimeout live.settings.reportsDir
      audience live.snapshot live.folder left live.net = (.ok (), rest, net) ∧
      next = { live with net } := by
  simp only [run, mail, Prod.mk.injEq] at ran
  obtain ⟨ok, rfl, rfl⟩ := ran
  exact ⟨_, Prod.ext (mapError_eq_ok.mp ok) rfl, rfl⟩

def Posted (batch : List Message) (before after : Live W) : Prop :=
  (batch = [] ∧ after.net = before.net) ∨
    ∃ left rest, Mail.post before.settings.mail before.settings.requestTimeout batch left
      before.net = (.ok (), rest, after.net)

def filed (kind : JobKind) (snapshot : Snapshot) (entries : List (String × File)) :
    List (String × File) :=
  let engineers := Report.stacked snapshot snapshot.emails entries
  if kind.includes .serviceDesk then
    Folder.put Report.serviceDeskFile (.workbook (Report.deskWorkbook snapshot)) engineers
  else engineers

theorem reports_ok {kind : JobKind} (engineers : kind.includes .fieldEngineers = true)
    {before after : Live W} (done : Done (kind.stepsOf .workbookGeneration) before after) :
    ∃ entries, after = { before with folder := .present (filed kind before.snapshot entries) } := by
  have reported : ∀ {next : Live W}, Done [.report .fieldEngineers] before next →
      ∃ entries, next = { before with
        folder := .present (Report.stacked before.snapshot before.snapshot.emails entries) } := by
    intro next first
    obtain ⟨left, rest, ran⟩ := first.single
    obtain ⟨folder, written, rfl⟩ := report_ok ran
    obtain ⟨⟨entries, rfl⟩, -⟩ := Report.writeEngineers_ok written
    exact ⟨entries, rfl⟩
  cases kind with
  | serviceDesk => cases engineers
  | fieldEngineers => exact reported done
  | all =>
    have both : Done ([.report .fieldEngineers] ++ [.report .serviceDesk]) before after := done
    obtain ⟨middle, first, second⟩ := both.split
    obtain ⟨entries, rfl⟩ := reported first
    obtain ⟨left, rest, ran⟩ := second.single
    obtain ⟨folder, written, rfl⟩ := report_ok ran
    exact ⟨entries, by rw [Report.writeDesk_ok written]; rfl⟩

theorem send_ok {audience : Audience} {left rest : Nat} {live next : Live W}
    (ran : run (.mail audience) left live = (.ok (), rest, next)) :
    ∃ batch, Mail.messages live.settings.mail live.settings.reportsDir audience live.snapshot
        live.folder = .ok batch ∧
      Posted batch live next ∧ next.folder = live.folder := by
  obtain ⟨net, sent, rfl⟩ := mail_ok ran
  unfold Mail.send at sent
  split at sent
  next => cases sent
  next none =>
    cases sent
    exact ⟨[], none, .inl ⟨rfl, rfl⟩, rfl⟩
  next batch _ made => exact ⟨batch, made, .inr ⟨left, rest, sent⟩, rfl⟩

theorem lookup_filed {kind : JobKind} {snapshot : Snapshot} (apart : kind.Apart snapshot)
    (entries : List (String × File)) (email : String) (member : email ∈ snapshot.emails) :
    (filed kind snapshot entries).lookup (Report.engineerFile email) =
      some (.workbook (Report.engineerWorkbook snapshot email)) := by
  have own := Report.lookup_stacked snapshot snapshot.emails entries apart.1 email member
  unfold filed
  split
  next desk =>
    have different : Report.engineerFile email ≠ Report.serviceDeskFile := fun same =>
      apart.2 desk (List.mem_map.mpr ⟨email, member, same⟩)
    rw [Folder.lookup_put_of_ne _ _ different, own]
  next => exact own

theorem apart_of_own {kind : JobKind} {snapshot : Snapshot} {entries : List (String × File)}
    {batch : List Message} (recipients : batch.map Message.recipient = snapshot.emails)
    (contents : ∀ message ∈ batch,
      (filed kind snapshot entries).lookup (Report.engineerFile message.recipient) =
        some message.attachment.content)
    (own : ∀ message ∈ batch, message.Own snapshot) : kind.Apart snapshot := by
  have addressed : ∀ email ∈ snapshot.emails, ∃ message ∈ batch, message.recipient = email := by
    intro email member
    rwa [← recipients, List.mem_map] at member
  constructor
  · refine snapshot.emails_nodup.map_on fun first firstMember second secondMember same => ?_
    obtain ⟨message, inBatch, rfl⟩ := addressed first firstMember
    obtain ⟨other, otherInBatch, rfl⟩ := addressed second secondMember
    have content := contents message inBatch
    rw [same, contents other otherInBatch] at content
    exact Message.recipient_eq_of_own (own message inBatch) (own other otherInBatch)
      (Option.some.inj content).symm
  · intro desk shared
    obtain ⟨email, member, same⟩ := List.mem_map.mp shared
    obtain ⟨message, inBatch, rfl⟩ := addressed email member
    have content := contents message inBatch
    rw [same, filed, if_pos desk, Folder.lookup_put] at content
    exact Message.not_own_of_desk (Option.some.inj content).symm (own message inBatch)

/-- After the reports of a job and the mails to its engineers, every engineer was sent their own
workbook exactly if no two workbooks of the job share a file. -/
theorem own_workbooks_iff (kind : JobKind) (engineers : kind.includes .fieldEngineers = true)
    (before after : Live W)
    (done : Done (kind.stepsOf .workbookGeneration ++ [.mail .fieldEngineers]) before after) :
    ∃ batch,
      Mail.messages before.settings.mail before.settings.reportsDir .fieldEngineers
        before.snapshot after.folder = .ok batch ∧
      Posted batch before after ∧ batch.map Message.recipient = before.snapshot.emails ∧
      ((∀ message ∈ batch, message.Own before.snapshot) ↔ kind.Apart before.snapshot) := by
  obtain ⟨middle, reported, mailed⟩ := done.split
  obtain ⟨entries, rfl⟩ := reports_ok engineers reported
  obtain ⟨left, rest, ran⟩ := mailed.single
  obtain ⟨batch, made, posted, kept⟩ := send_ok ran
  obtain ⟨recipients, contents⟩ := Mail.engineerMessages_ok made
  refine ⟨batch, kept ▸ made, posted, recipients, ?_, ?_⟩
  · exact apart_of_own recipients contents
  · intro apart message member
    have addressed : message.recipient ∈ before.snapshot.emails :=
      recipients ▸ List.mem_map_of_mem member
    have content : (filed kind before.snapshot entries).lookup
        (Report.engineerFile message.recipient) = some message.attachment.content :=
      contents message member
    rw [lookup_filed apart entries _ addressed] at content
    exact Message.own_of_content (Option.some.inj content).symm

structure Postbox where

instance : Network Postbox where
  token box := (.ok "", box)
  send _ box :=
    ({ took := 0, reply := some { status := 200, body := { chunks := [[91, 93]] } } }, box)

def lookalikes : Live Postbox :=
  let ticket (number email : String) : Ticket :=
    { kind := .incident
      channelId := "c"
      channelName := "Channel"
      userId := number
      userEmail := email
      data := { number, description := "", state := 1, location := "", createdAt := none } }
  { settings := { reportsDir := "reports" }
    snapshot := { tickets := [ticket "INC1" "ann/lab@x.cz", ticket "INC2" "ann_lab@x.cz"] }
    net := {} }

theorem Done.step {step : Step} {rest : List Step} (left : Nat) {live last : Live W}
    (ok : (run step left live).1.toBool = true) (later : Done rest (run step left live).2.2 last) :
    Done (step :: rest) live last := by
  refine .cons step rest left _ live _ last (Prod.ext ?_ rfl) later
  cases result : (run step left live).1 with
  | error error => simp [result, Except.toBool] at ok
  | ok value => rfl

def lookalikesServed : Live Postbox :=
  let engineers := (run (.report .fieldEngineers) 2 lookalikes).2.2
  let desk := (run (.report .serviceDesk) 1 engineers).2.2
  (run (.mail .fieldEngineers) 0 desk).2.2

theorem lookalikes_done :
    Done (JobKind.all.stepsOf .workbookGeneration ++ [.mail .fieldEngineers]) lookalikes
      lookalikesServed :=
  .step 2 (by decide +kernel) (.step 1 (by decide +kernel) (.step 0 (by decide +kernel) (.nil _)))

theorem own_workbooks_iff_lookalikes :
    JobKind.all.includes .fieldEngineers = true ∧ ∃ batch,
      Posted batch lookalikes lookalikesServed ∧
      ((∀ message ∈ batch, message.Own lookalikes.snapshot) ↔
        JobKind.all.Apart lookalikes.snapshot) := by
  obtain ⟨batch, _, posted, _, iff⟩ :=
    own_workbooks_iff .all rfl lookalikes lookalikesServed lookalikes_done
  exact ⟨rfl, batch, posted, iff⟩

/-- Of two such engineers one is mailed the workbook of the other. -/
theorem lookalike_gets_foreign_workbook :
    ∃ batch,
      Done (JobKind.all.stepsOf .workbookGeneration ++ [.mail .fieldEngineers]) lookalikes
        lookalikesServed ∧
      Mail.messages lookalikes.settings.mail lookalikes.settings.reportsDir .fieldEngineers
        lookalikes.snapshot lookalikesServed.folder = .ok batch ∧
      ¬∀ message ∈ batch, message.Own lookalikes.snapshot := by
  have titles :
      (Mail.messages lookalikes.settings.mail lookalikes.settings.reportsDir .fieldEngineers
        lookalikes.snapshot lookalikesServed.folder).toOption.map
          (fun batch => batch.map fun message =>
            (message.recipient, message.attachment.content.title?)) =
      some [("ann/lab@x.cz", some "Tickets for ann_lab@x.cz"),
        ("ann_lab@x.cz", some "Tickets for ann_lab@x.cz")] := by
    decide +kernel
  obtain ⟨batch, made, listed⟩ := Option.map_eq_some_iff.mp titles
  refine ⟨batch, lookalikes_done, ?_, fun own => ?_⟩
  · cases result : Mail.messages lookalikes.settings.mail lookalikes.settings.reportsDir
        .fieldEngineers lookalikes.snapshot lookalikesServed.folder with
    | error error => simp [result, Except.toOption] at made
    | ok found => simpa [result, Except.toOption] using made
  · have foreign : ("ann/lab@x.cz", some "Tickets for ann_lab@x.cz") ∈ batch.map fun message =>
        (message.recipient, message.attachment.content.title?) := by
      rw [listed]
      exact List.mem_cons_self
    obtain ⟨message, member, same⟩ := List.mem_map.mp foreign
    obtain ⟨recipient, title⟩ := Prod.mk.inj same
    rw [Message.title_of_own (own message member), recipient] at title
    exact absurd title (by decide)

end Live

end TicketReports
