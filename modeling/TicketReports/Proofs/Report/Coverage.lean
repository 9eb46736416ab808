import TicketReports.Proofs.Report.Cells
import TicketReports.Proofs.Report.Folder

set_option autoImplicit false

namespace TicketReports

namespace Workbook

/-- No row and no cell is more than a workbook takes. -/
def Fits (workbook : Workbook) : Prop :=
  workbook.lines.length ≤ rowLimit ∧ ∀ line ∈ workbook.lines, ∀ cell ∈ line, cell.length ≤ cellLimit

instance (workbook : Workbook) : Decidable workbook.Fits := inferInstanceAs (Decidable (_ ∧ _))

theorem go_eq_none {row : Nat} {lines : List (List String)}
    (rows : row + lines.length ≤ rowLimit)
    (cells : ∀ line ∈ lines, ∀ cell ∈ line, cell.length ≤ cellLimit) :
    flaw?.go row lines = none := by
  induction lines generalizing row with
  | nil => rfl
  | cons line rest ih =>
    obtain ⟨short, later⟩ := List.forall_mem_cons.mp cells
    rw [List.length_cons] at rows
    have inside : ¬rowLimit ≤ row := by omega
    have plain : ¬(line.any fun cell => cellLimit < cell.length) = true := by
      simpa using short
    rw [flaw?.go, if_neg inside, if_neg plain]
    exact ih (by omega) later

theorem Fits.flaw? {workbook : Workbook} (fits : workbook.Fits) : workbook.flaw? = none :=
  go_eq_none (by rw [Nat.zero_add]; exact fits.1) fits.2

end Workbook

namespace Folder

def fileNames (entries : List (String × File)) : List String :=
  (entries.filter fun entry => entry.2 != .directory).map Prod.fst

theorem mem_fileNames {name : String} {entries : List (String × File)} :
    name ∈ fileNames entries ↔ ∃ file, (name, file) ∈ entries ∧ file ≠ .directory := by
  simp [fileNames]

theorem mem_fileNames_put {name other : String} {file : File} (plain : file ≠ .directory)
    (entries : List (String × File)) :
    other ∈ fileNames (put name file entries) ↔ other = name ∨ other ∈ fileNames entries := by
  rw [mem_fileNames, mem_fileNames]
  by_cases same : other = name
  · subst same
    exact iff_of_true ⟨file, List.mem_append_right _ (List.mem_singleton_self _), plain⟩ (.inl rfl)
  · simp [put, same]

theorem flaw?_of_long {name : String} (long : Report.nameLimit < name.utf8ByteSize) (dir : String) :
    flaw? dir name ≠ none := by
  simp [flaw?, long]

theorem fileNames_rooms (dir : String) : fileNames (rooms dir) = [] := by
  simp [fileNames, rooms]

end Folder

namespace Report

/-- A directory can be made at the path, and files of these names in it. -/
structure Granted (dir : String) (names : List String) (folder : Folder) : Prop where
  unblocked : folder ≠ .blocked
  undotted : endsInDot dir = false
  reached : placeFlaw? dir = none
  named : ∀ name ∈ names, Folder.flaw? dir name = none
  untrodden : ∀ name ∈ names, name ∉ detours dir

instance (dir : String) (names : List String) (folder : Folder) :
    Decidable (Granted dir names folder) :=
  decidable_of_iff (folder ≠ .blocked ∧ endsInDot dir = false ∧ placeFlaw? dir = none ∧
      (∀ name ∈ names, Folder.flaw? dir name = none) ∧ ∀ name ∈ names, name ∉ detours dir)
    ⟨fun ⟨a, b, c, d, e⟩ => ⟨a, b, c, d, e⟩, fun ⟨a, b, c, d, e⟩ => ⟨a, b, c, d, e⟩⟩

theorem mem_fileNames_stacked (snapshot : Snapshot) (emails : List String)
    (entries : List (String × File)) (name : String) :
    name ∈ Folder.fileNames (stacked snapshot emails entries) ↔
      (∃ email ∈ emails, name = engineerFile email) ∨ name ∈ Folder.fileNames entries := by
  induction emails generalizing entries with
  | nil => simp [stacked]
  | cons email rest ih =>
    rw [stacked, List.foldl_cons]
    refine (ih _).trans ?_
    rw [Folder.mem_fileNames_put (by simp), or_left_comm, ← or_assoc]
    simp only [List.mem_cons, exists_eq_or_imp]

theorem save_granted {dir name : String} {workbook : Workbook} {entries : List (String × File)}
    (fits : workbook.Fits) (named : Folder.flaw? dir name = none)
    (clear : entries.lookup name ≠ some .directory) :
    save dir name workbook (.present entries) =
      .ok (.present (Folder.put name (.workbook workbook) entries)) := by
  rw [save_present clear, saveFlaw?, fits.flaw?, named]
  rfl

theorem length_le_utf8ByteSize (chars : List Char) :
    chars.length ≤ (String.ofList chars).utf8ByteSize := by
  induction chars with
  | nil => exact Nat.zero_le _
  | cons c rest ih =>
    have some_byte := c.utf8Size_pos
    rw [String.ofList_cons, String.utf8ByteSize_append, String.utf8ByteSize_singleton,
      List.length_cons]
    omega

theorem engineerFile_length_le (email : String) :
    email.length + 5 ≤ (engineerFile email).utf8ByteSize := by
  refine Nat.le_trans (Nat.le_of_eq ?_) (length_le_utf8ByteSize _)
  rw [List.length_append, sanitized, List.length_map, String.length_toList]
  rfl

theorem writeEach_granted {dir : String} {snapshot : Snapshot} {emails : List String}
    (fits : ∀ email ∈ emails, (engineerWorkbook snapshot email).Fits)
    (named : ∀ email ∈ emails, Folder.flaw? dir (engineerFile email) = none)
    (left : Nat) {entries : List (String × File)}
    (clear : ∀ email ∈ emails, entries.lookup (engineerFile email) ≠ some .directory) :
    writeEach dir snapshot emails left (.present entries) =
      (if emails.length ≤ left then .ok () else .error .cancelled, left - emails.length,
        .present (stacked snapshot (emails.take left) entries)) := by
  induction emails generalizing left entries with
  | nil => simp [writeEach, stacked]
  | cons email rest ih =>
    cases left with
    | zero =>
      rw [if_neg (by simp), Nat.zero_sub]
      rfl
    | succ left =>
      obtain ⟨fit, fits⟩ := List.forall_mem_cons.mp fits
      obtain ⟨short, named⟩ := List.forall_mem_cons.mp named
      obtain ⟨free, clear⟩ := List.forall_mem_cons.mp clear
      -- What was just written is no directory, so that the later names are as free as before.
      have clear : ∀ other ∈ rest, (Folder.put (engineerFile email)
          (.workbook (engineerWorkbook snapshot email)) entries).lookup (engineerFile other) ≠
            some .directory := by
        intro other later
        by_cases same : engineerFile other = engineerFile email
        · simp [same]
        · rw [Folder.lookup_put_of_ne _ _ same]
          exact clear other later
      rw [writeEach, save_granted fit short free]
      refine (ih fits named left clear).trans ?_
      simp [stacked]

section Granted

variable {dir : String} {names : List String} {folder : Folder}
  (granted : Granted dir names folder) (snapshot : Snapshot)
include granted

theorem writeDesk_granted (listed : serviceDeskFile ∈ names)
    (clear : folder.entries.lookup serviceDeskFile ≠ some .directory)
    (fits : (deskWorkbook snapshot).Fits) {left : Nat} (time : snapshot.channelIds.length ≤ left) :
    ∃ after entries, writeDesk dir snapshot left folder = (.ok (), after, .present entries) ∧
      entries.lookup serviceDeskFile = some (.workbook (deskWorkbook snapshot)) := by
  obtain ⟨entries, origin, ensured⟩ := Folder.ensure_unblocked granted.undotted granted.unblocked
  have free : entries.lookup serviceDeskFile ≠ some .directory := by
    rcases origin with rfl | rfl
    · exact clear
    · exact Folder.lookup_rooms (granted.untrodden _ listed)
  rw [writeDesk, ensured, granted.reached]
  dsimp only
  rw [if_neg (Nat.not_lt.mpr time), save_granted fits (granted.named _ listed) free]
  exact ⟨_, _, rfl, Folder.lookup_put _ _ _⟩

theorem writeEngineers_granted (listed : ∀ email ∈ snapshot.emails, engineerFile email ∈ names)
    (fits : ∀ email ∈ snapshot.emails, (engineerWorkbook snapshot email).Fits) (left : Nat) :
    writeEngineers dir snapshot left folder =
      (if snapshot.emails.length ≤ left then .ok () else .error .cancelled,
        left - snapshot.emails.length,
        .present (stacked snapshot (snapshot.emails.take left) (Folder.rooms dir))) := by
  rw [writeEngineers, Folder.recreate_unblocked granted.undotted granted.unblocked, granted.reached]
  refine writeEach_granted fits (fun email member => granted.named _ (listed email member)) left ?_
  exact fun email member => Folder.lookup_rooms (granted.untrodden _ (listed email member))

end Granted

/-- Tickets that fit into workbooks are all reported, each once. -/
theorem every_ticket_is_reported_once (dir : String) (snapshot : Snapshot) (folder : Folder)
    (left : Nat)
    (granted : Granted dir (serviceDeskFile :: snapshot.emails.map engineerFile) folder)
    (clear : folder.entries.lookup serviceDeskFile ≠ some .directory)
    (desk : (deskWorkbook snapshot).Fits)
    (engineers : ∀ email ∈ snapshot.emails, (engineerWorkbook snapshot email).Fits)
    (time : snapshot.channelIds.length ≤ left) :
    (∃ (workbook : Workbook) (sheet : List Ticket) (after : Nat) (entries : List (String × File)),
      write dir .serviceDesk snapshot left folder = (.ok (), after, .present entries) ∧
      entries.lookup serviceDeskFile = some (.workbook workbook) ∧
      workbook.lines = [["Open tickets"], fullHeader] ++ sheet.map Ticket.fullCells ∧
      Arranged snapshot.tickets sheet) ∧
    (∃ rooms : List (String × File), (∀ room ∈ rooms, room.2 = .directory) ∧
      (∀ left, write dir .fieldEngineers snapshot left folder =
        (if snapshot.emails.length ≤ left then .ok () else .error .cancelled,
          left - snapshot.emails.length,
          .present (stacked snapshot (snapshot.emails.take left) rooms))) ∧
      ∀ name, name ∈ Folder.fileNames (stacked snapshot snapshot.emails rooms) ↔
        ∃ email ∈ snapshot.emails, name = engineerFile email) ∧
    snapshot.emails.Pairwise (· < ·) ∧
    (∀ email, email ∈ snapshot.emails ↔
      email ≠ "" ∧ ∃ ticket ∈ snapshot.tickets, ticket.userEmail = email) ∧
    (∀ email, (engineerWorkbook snapshot email).lines =
        [["Tickets for " ++ email], ticketHeader] ++
          (snapshot.ticketsOf email).map Ticket.cells ∧
      snapshot.ticketsOf email =
        snapshot.tickets.filter (fun ticket =>
            ticket.kind == .incident && ticket.userEmail == email) ++
          snapshot.tickets.filter fun ticket =>
            ticket.kind == .request && ticket.userEmail == email) ∧
    (snapshot.emails.flatMap snapshot.ticketsOf).Perm
      (snapshot.tickets.filter Ticket.isAssigned) ∧
    ∀ ticket : Ticket, Tells ticketHeader ticket ticket.cells ∧
      TellsAssignee fullHeader ticket ticket.fullCells := by
  -- Which addresses there are and whose tickets are whose does not depend on the files.
  refine ⟨?_, ?_, snapshot.emails_increasing, snapshot.mem_emails,
    fun email => ⟨rfl, snapshot.ticketsOf_eq email⟩, snapshot.ticketsOf_emails_perm,
    fun ticket => ⟨ticket.cells_tell, ticket.fullCells_tell⟩⟩
  · obtain ⟨after, entries, written, held⟩ :=
      writeDesk_granted granted snapshot List.mem_cons_self clear desk time
    exact ⟨_, _, after, entries, written, held, rfl, snapshot.ticketsByChannel_arranged⟩
  · -- The reports are written into a new directory, whatever the old one held.
    refine ⟨Folder.rooms dir, fun room member => ?_, fun left => ?_, fun name => ?_⟩
    · obtain ⟨detour, -, rfl⟩ := List.mem_map.mp member
      rfl
    · exact writeEngineers_granted granted snapshot
        (fun email member => List.mem_cons_of_mem _ (List.mem_map_of_mem member)) engineers left
    · rw [mem_fileNames_stacked, Folder.fileNames_rooms]
      simp only [List.not_mem_nil, or_false]

section Ward

def ticketFor (kind : TicketKind) (email : String) : Ticket :=
  { kind
    channelId := "c"
    channelName := "Channel"
    userId := "u"
    userEmail := email
    data := { number := "1", description := "", state := 1, location := "", createdAt := none } }

def ward : Snapshot :=
  { tickets := [ticketFor .request "ben@x.cz", ticketFor .incident "",
      ticketFor .incident "ben@x.cz", ticketFor .request "ann@x.cz"] }

theorem ward_is_reported_once :
    (∃ (workbook : Workbook) (sheet : List Ticket) (after : Nat) (entries : List (String × File)),
      write "reports" .serviceDesk ward 2 (.present [("old.xlsx", .text "x")]) =
        (.ok (), after, .present entries) ∧
      entries.lookup serviceDeskFile = some (.workbook workbook) ∧
      workbook.lines = [["Open tickets"], fullHeader] ++ sheet.map Ticket.fullCells ∧
      Arranged ward.tickets sheet) ∧
    ∃ rooms : List (String × File), (∀ room ∈ rooms, room.2 = .directory) ∧
      write "reports" .fieldEngineers ward 2 (.present [("old.xlsx", .text "x")]) =
        (.ok (), 0, .present (stacked ward ward.emails rooms)) ∧
      ∀ name, name ∈ Folder.fileNames (stacked ward ward.emails rooms) ↔
        ∃ email ∈ ward.emails, name = engineerFile email := by
  have emails : ward.emails = ["ann@x.cz", "ben@x.cz"] := by decide +kernel
  obtain ⟨desk, ⟨rooms, plain, written, named⟩, -⟩ :=
    every_ticket_is_reported_once "reports" ward (.present [("old.xlsx", .text "x")]) 2
      (by decide +kernel) (by decide +kernel) (by decide +kernel) (by decide +kernel)
      (by decide +kernel)
  refine ⟨desk, rooms, plain, (written 2).trans ?_, named⟩
  rw [emails]
  rfl

def overlong : Snapshot :=
  { tickets := [ticketFor .incident (String.ofList (List.replicate 251 'a'))] }

theorem overlong_length : (String.ofList (List.replicate 251 'a')).length = 251 := by
  rw [String.length_ofList, List.length_replicate]

theorem overlong_emails : overlong.emails = [String.ofList (List.replicate 251 'a')] := by
  decide +kernel

theorem overlong_fits : ∀ email ∈ overlong.emails, (engineerWorkbook overlong email).Fits := by
  rw [overlong_emails, List.forall_mem_singleton]
  refine ⟨by decide +kernel, List.forall_mem_cons.mpr ⟨?_, by decide +kernel⟩⟩
  rw [List.forall_mem_singleton, engineerWorkbook, String.length_append, overlong_length]
  decide

/-- The file system may refuse a file's name, or have something else in the directory's place. -/
theorem file_system_refuses_reports :
    (overlong.emails.length = 1 ∧
      (∀ email ∈ overlong.emails, (engineerWorkbook overlong email).Fits) ∧
      ¬∃ after folder,
        write "reports" .fieldEngineers overlong 1 .missing = (.ok (), after, folder)) ∧
    ward.emails.length = 2 ∧ (∀ email ∈ ward.emails, (engineerWorkbook ward email).Fits) ∧
      ¬∃ after folder,
        write "reports" .fieldEngineers ward 2 .blocked = (.ok (), after, folder) := by
  have placed : (write "reports" .fieldEngineers ward 2 .blocked).1.toBool = false := by
    decide +kernel
  refine ⟨⟨by rw [overlong_emails]; rfl, overlong_fits, ?_⟩, by decide +kernel, by decide +kernel,
    ?_⟩
  · rintro ⟨after, folder, written⟩
    have bytes := engineerFile_length_le (String.ofList (List.replicate 251 'a'))
    rw [overlong_length] at bytes
    have long :
        nameLimit < (engineerFile (String.ofList (List.replicate 251 'a'))).utf8ByteSize := by
      rw [nameLimit]
      omega
    rw [write] at written
    have taken := (writeEngineers_ok written).2 (String.ofList (List.replicate 251 'a'))
      (by rw [overlong_emails]; exact List.mem_cons_self)
    exact Folder.flaw?_of_long long "reports" taken
  · rintro ⟨after, folder, written⟩
    rw [written] at placed
    cases placed

end Ward

end Report

end TicketReports
