import TicketReports.Proofs.Snapshot
import TicketReports.Report.Writer

set_option autoImplicit false

namespace TicketReports

namespace Folder

@[simp] theorem lookup_put (name : String) (file : File) (entries : List (String × File)) :
    (put name file entries).lookup name = some file := by
  have cleared : (entries.filter fun entry => entry.1 != name).lookup name = none := by
    rw [List.lookup_eq_none_iff]
    intro entry member
    have different := (List.mem_filter.mp member).2
    rw [bne_iff_ne] at different ⊢
    exact different.symm
  rw [put, List.lookup_append, cleared, Option.none_or, List.lookup_cons_self]

theorem lookup_put_of_ne (name other : String) (different : other ≠ name) (file : File)
    (entries : List (String × File)) :
    (put name file entries).lookup other = entries.lookup other := by
  induction entries with
  | nil => simp [put, different]
  | cons entry rest ih =>
    obtain ⟨key, held⟩ := entry
    simp only [put] at ih ⊢
    by_cases cleared : key = name
    · subst cleared
      rw [List.filter_cons_of_neg (by simp), ih, List.lookup_cons, beq_false_of_ne different]
    · rw [List.filter_cons_of_pos (by simpa using cleared), List.cons_append, List.lookup_cons,
        List.lookup_cons, ih]

theorem search_ok {dir name : String} {folder : Folder} {entries : List (String × File)}
    (found : folder.search dir name = .ok entries) : folder = .present entries := by
  unfold search at found
  split at found
  next => cases found
  next => cases found
  next => cases found
  next => cases found
  next present =>
    split at found
    next => cases found
    next => cases found; rfl

def flaw? (dir name : String) : Option FileError :=
  (Report.placeFlaw? dir).or <| (Report.pathFlaw? (Report.joinPath dir name)).or <|
    if Report.nameLimit < name.utf8ByteSize then some .nameTooLong else none

theorem mem_of_lookup {name : String} {file : File} {entries : List (String × File)}
    (held : entries.lookup name = some file) : (name, file) ∈ entries := by
  obtain ⟨before, after, rfl, _⟩ := List.lookup_eq_some_iff.mp held
  exact List.mem_append_right before List.mem_cons_self

theorem search_present (dir name : String) (entries : List (String × File)) :
    (present entries).search dir name =
      match flaw? dir name with
      | some flaw => .error flaw
      | none => .ok entries := by
  unfold search flaw?
  cases Report.placeFlaw? dir with
  | some flaw => rfl
  | none =>
    cases Report.pathFlaw? (Report.joinPath dir name) with
    | some flaw => rfl
    | none =>
      simp only [Option.none_or]
      split
      next => rfl
      next => rfl

theorem read_congr {name : String} {entries others : List (String × File)}
    (same : others.lookup name = entries.lookup name) (dir : String) :
    (present others).read dir name = (present entries).read dir name := by
  unfold read
  rw [search_present, search_present]
  cases flaw? dir name with
  | some flaw => rfl
  | none => simp only [bind, Except.bind, same]

theorem write_present {name : String} {entries : List (String × File)}
    (clear : entries.lookup name ≠ some .directory) (dir : String) (file : File) :
    (present entries).write dir name file =
      match flaw? dir name with
      | some flaw => .error flaw
      | none => .ok (.present (put name file entries)) := by
  unfold write
  rw [search_present]
  cases flaw? dir name with
  | some flaw => rfl
  | none => exact if_neg clear

theorem write_ok {dir name : String} {file : File} {folder next : Folder}
    (written : folder.write dir name file = .ok next) :
    next = .present (put name file folder.entries) ∧ flaw? dir name = none := by
  unfold write at written
  cases found : folder.search dir name with
  | error error =>
    rw [found] at written
    cases written
  | ok entries =>
    simp only [found, bind, Except.bind] at written
    obtain rfl := search_ok found
    have named : flaw? dir name = none := by
      rw [search_present] at found
      cases flawed : flaw? dir name with
      | some flaw =>
        rw [flawed] at found
        cases found
      | none => rfl
    split at written
    next => cases written
    next => cases written; exact ⟨rfl, named⟩

theorem read_ok {dir name : String} {folder : Folder} {file : File}
    (answer : folder.read dir name = .ok file) :
    folder.entries.lookup name = some file ∧ file ≠ .directory := by
  unfold read at answer
  cases found : folder.search dir name with
  | error error =>
    rw [found] at answer
    cases answer
  | ok entries =>
    simp only [found, bind, Except.bind] at answer
    obtain rfl := search_ok found
    split at answer
    next => cases answer
    next => cases answer
    next plain held => cases answer; exact ⟨held, fun same => plain (same ▸ rfl)⟩

theorem recreate_unblocked {dir : String} (undotted : Report.endsInDot dir = false)
    {folder : Folder} (unblocked : folder ≠ .blocked) :
    folder.recreate dir =
      match Report.placeFlaw? dir with
      | some flaw => (.error flaw, folder)
      | none => (.ok (), made dir) := by
  unfold recreate
  rw [undotted]
  cases Report.placeFlaw? dir with
  | some flaw => rfl
  | none =>
    cases folder with
    | missing => rfl
    | blocked => exact absurd rfl unblocked
    | present entries => rfl

def rooms (dir : String) : List (String × File) :=
  (Report.detours dir).map fun name => (name, .directory)

theorem lookup_rooms {dir name : String} (untrodden : name ∉ Report.detours dir) :
    (rooms dir).lookup name ≠ some .directory := by
  intro held
  obtain ⟨detour, member, same⟩ := List.mem_map.mp (mem_of_lookup held)
  cases same
  exact untrodden member

theorem ensure_unblocked {dir : String} (undotted : Report.endsInDot dir = false) {folder : Folder}
    (unblocked : folder ≠ .blocked) :
    ∃ entries, (entries = folder.entries ∨ entries = rooms dir) ∧
      folder.ensure dir =
        match Report.placeFlaw? dir with
        | some flaw => .error flaw
        | none => .ok (.present entries) := by
  unfold ensure
  rw [undotted]
  cases folder with
  | missing => exact ⟨rooms dir, .inr rfl, by cases Report.placeFlaw? dir <;> rfl⟩
  | blocked => exact absurd rfl unblocked
  | present entries => exact ⟨entries, .inl rfl, by cases Report.placeFlaw? dir <;> rfl⟩

theorem recreate_ok {dir : String} {folder next : Folder}
    (made : folder.recreate dir = (.ok (), next)) : ∃ entries, next = .present entries := by
  unfold recreate at made
  repeat' split at made
  all_goals cases made
  all_goals exact ⟨_, rfl⟩

theorem ensure_ok {dir : String} {entries : List (String × File)} {next : Folder}
    (made : (present entries).ensure dir = .ok next) : next = .present entries := by
  unfold ensure at made
  split at made
  next => cases made
  next blocked => cases blocked
  next missing => cases missing
  next same => cases same; cases made; rfl

end Folder

namespace Report

def saveFlaw? (dir name : String) (workbook : Workbook) : Option ReportError :=
  match workbook.flaw? with
  | some flaw => some (.workbook flaw)
  | none => (Folder.flaw? dir name).map fun flaw => .workbook (.file flaw)

theorem save_present {name : String} {entries : List (String × File)}
    (clear : entries.lookup name ≠ some .directory) (dir : String) (workbook : Workbook) :
    save dir name workbook (.present entries) =
      match saveFlaw? dir name workbook with
      | some error => .error error
      | none => .ok (.present (Folder.put name (.workbook workbook) entries)) := by
  unfold save saveFlaw?
  cases workbook.flaw? with
  | some flaw => rfl
  | none =>
    rw [Folder.write_present clear]
    cases Folder.flaw? dir name <;> rfl

theorem save_ok {dir name : String} {workbook : Workbook} {folder next : Folder}
    (saved : save dir name workbook folder = .ok next) :
    next = .present (Folder.put name (.workbook workbook) folder.entries) ∧
      Folder.flaw? dir name = none := by
  unfold save at saved
  split at saved
  next => cases saved
  next =>
    split at saved
    next => cases saved
    next written => cases saved; exact Folder.write_ok written

def stacked (snapshot : Snapshot) (emails : List String) (entries : List (String × File)) :
    List (String × File) :=
  emails.foldl
    (fun entries email =>
      Folder.put (engineerFile email) (.workbook (engineerWorkbook snapshot email)) entries)
    entries

theorem lookup_stacked_of_not_mem (snapshot : Snapshot) (name : String) (emails : List String)
    (entries : List (String × File)) (absent : name ∉ emails.map engineerFile) :
    (stacked snapshot emails entries).lookup name = entries.lookup name := by
  induction emails generalizing entries with
  | nil => rfl
  | cons email rest ih =>
    rw [List.map_cons, List.mem_cons, not_or] at absent
    exact (ih _ absent.2).trans (Folder.lookup_put_of_ne _ _ absent.1 _ _)

theorem lookup_stacked (snapshot : Snapshot) (emails : List String)
    (entries : List (String × File)) (apart : (emails.map engineerFile).Nodup) (email : String)
    (member : email ∈ emails) :
    (stacked snapshot emails entries).lookup (engineerFile email) =
      some (.workbook (engineerWorkbook snapshot email)) := by
  induction emails generalizing entries with
  | nil => cases member
  | cons head rest ih =>
    obtain ⟨unshared, tail⟩ := List.nodup_cons.mp apart
    rcases List.mem_cons.mp member with rfl | later
    · exact (lookup_stacked_of_not_mem snapshot _ rest _ unshared).trans (Folder.lookup_put _ _ _)
    · exact ih _ tail later

theorem writeEach_ok (dir : String) (snapshot : Snapshot) {emails : List String}
    {left rest : Nat} {entries : List (String × File)} {next : Folder}
    (written : writeEach dir snapshot emails left (.present entries) = (.ok (), rest, next)) :
    next = .present (stacked snapshot emails entries) ∧
      ∀ email ∈ emails, Folder.flaw? dir (engineerFile email) = none := by
  induction emails generalizing left entries with
  | nil => cases written; exact ⟨rfl, fun _ none => by cases none⟩
  | cons email emails ih =>
    cases left with
    | zero => cases written
    | succ left =>
      unfold writeEach at written
      split at written
      next => cases written
      next saved =>
        obtain ⟨rfl, named⟩ := save_ok saved
        obtain ⟨rfl, others⟩ := ih written
        exact ⟨rfl, List.forall_mem_cons.mpr ⟨named, others⟩⟩

theorem writeEngineers_ok {dir : String} {snapshot : Snapshot} {left rest : Nat}
    {folder next : Folder}
    (written : writeEngineers dir snapshot left folder = (.ok (), rest, next)) :
    (∃ entries, next = .present (stacked snapshot snapshot.emails entries)) ∧
      ∀ email ∈ snapshot.emails, Folder.flaw? dir (engineerFile email) = none := by
  unfold writeEngineers at written
  split at written
  next => cases written
  next made =>
    obtain ⟨entries, rfl⟩ := Folder.recreate_ok made
    obtain ⟨stacked, named⟩ := writeEach_ok dir snapshot written
    exact ⟨⟨entries, stacked⟩, named⟩

theorem writeDesk_ensures {dir : String} {snapshot : Snapshot} {left rest : Nat}
    {folder next : Folder} (written : writeDesk dir snapshot left folder = (.ok (), rest, next)) :
    ∃ ensured, folder.ensure dir = .ok ensured ∧
      next = .present
        (Folder.put serviceDeskFile (.workbook (deskWorkbook snapshot)) ensured.entries) := by
  unfold writeDesk at written
  split at written
  next => cases written
  next ensured made =>
    dsimp only at written
    split at written
    next => cases written
    next =>
      split at written
      next => cases written
      next saved => cases written; exact ⟨ensured, made, (save_ok saved).1⟩

theorem writeDesk_ok {dir : String} {snapshot : Snapshot} {left rest : Nat}
    {entries : List (String × File)} {next : Folder}
    (written : writeDesk dir snapshot left (.present entries) = (.ok (), rest, next)) :
    next = .present (Folder.put serviceDeskFile (.workbook (deskWorkbook snapshot)) entries) := by
  obtain ⟨ensured, made, rfl⟩ := writeDesk_ensures written
  rw [Folder.ensure_ok made]
  rfl

def workbooks (snapshot : Snapshot) : Audience → List (String × Workbook)
  | .fieldEngineers =>
    snapshot.emails.map fun email => (engineerFile email, engineerWorkbook snapshot email)
  | .serviceDesk => [(serviceDeskFile, deskWorkbook snapshot)]

def shelved (written : List (String × Workbook)) (entries : List (String × File)) :
    List (String × File) :=
  written.foldl (fun entries (name, workbook) => Folder.put name (.workbook workbook) entries)
    entries

theorem write_ok {dir : String} {audience : Audience} {snapshot : Snapshot} {left rest : Nat}
    {folder next : Folder}
    (written : write dir audience snapshot left folder = (.ok (), rest, next)) :
    ∃ entries, next = .present (shelved (workbooks snapshot audience) entries) := by
  cases audience with
  | fieldEngineers =>
    obtain ⟨⟨entries, rfl⟩, -⟩ := writeEngineers_ok written
    exact ⟨entries, by rw [stacked, shelved, workbooks, List.foldl_map]⟩
  | serviceDesk =>
    obtain ⟨ensured, -, rfl⟩ := writeDesk_ensures written
    exact ⟨ensured.entries, rfl⟩

end Report

end TicketReports
