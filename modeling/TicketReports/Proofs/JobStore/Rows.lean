import TicketReports.JobStore.Row
import TicketReports.Proofs.Failing
import TicketReports.Proofs.JobStore.Statements
import TicketReports.Proofs.JobStore.Steady
import TicketReports.Sql.Table

set_option autoImplicit false

namespace TicketReports

theorem FinalStatus.read_text (status : FinalStatus) : read status.text = .ok status := by
  cases status with
  | success => rfl
  | error detail =>
    have marked : (text (.error detail)).toList = errorMark ++ detail.toList := String.toList_append
    have other : errorMark ++ detail.toList ≠ "Success".toList := by
      intro same
      have initial := congrArg (List.take 1) same
      rw [List.take_append_of_le_length (by decide)] at initial
      exact absurd initial (by decide)
    rw [read, readChars, marked, if_neg other, if_pos List.take_left, List.drop_left,
      String.ofList_toList]

theorem JobKind.read_name (kind : JobKind) : read kind.name = .ok kind := by
  rw [read, ofName?_name]

namespace Timestamp

-- Nanoseconds since 1970. A leap second is also the second that follows it.
def instant (t : Timestamp) : Int := t.seconds * 1000000000 + t.nanos

/-- `read` is a whole number of microseconds and less than one of them away from `t`. -/
structure Micros (t read : Timestamp) : Prop where
  plain : read.nanos < 1000000000
  whole : read.nanos % 1000 = 0
  near : (read.instant - t.instant).natAbs < 1000

theorem Micros.eq {t read : Timestamp} (micros : t.Micros read) (plain : t.nanos < 1000000000)
    (whole : t.nanos % 1000 = 0) : read = t := by
  obtain ⟨seconds, nanos⟩ := t
  obtain ⟨readSeconds, readNanos⟩ := read
  obtain ⟨readPlain, readWhole, near⟩ := micros
  simp only [instant] at *
  have sameSeconds : readSeconds = seconds := by omega
  have sameNanos : readNanos = nanos := by omega
  rw [sameSeconds, sameNanos]

theorem ofMicros_toMicros (t : Timestamp) : t.Micros (ofMicros t.toMicros) := by
  have near :
      (t.toMicros * 1000 - ((t.seconds - year2000) * 1000000000 + t.nanos)).natAbs < 1000 := by
    rw [toMicros, Int.tdiv_eq_ediv]
    split
    · omega
    · rw [Int.sign_eq_one_of_pos (by decide)]
      omega
  refine ⟨?_, ?_, ?_⟩
  · simp only [ofMicros]
    omega
  · exact Nat.mul_mod_left _ _
  · simp only [instant, ofMicros]
    omega

end Timestamp

def Stamps.Micros (stamps read : Stamps) : Prop :=
  Option.Rel Timestamp.Micros stamps.started read.started ∧
    Option.Rel Timestamp.Micros stamps.finished read.finished

/-- `read` is `job`, its times to the microsecond. -/
structure Job.Micros (job read : Job) : Prop where
  id : read.id = job.id
  kind : read.kind = job.kind
  createdAt : job.createdAt.Micros read.createdAt
  stamps : ∀ phase, (job.progress.get phase).Micros (read.progress.get phase)
  outcome : read.outcome = job.outcome

namespace Sql

theorem Column.all_nodup : all.Nodup := by decide

theorem Column.progress_nodup : progress.Nodup := by decide

section Placed

variable {columns : List Column} {values : List Value} (distinct : columns.Nodup)
  (full : columns.length ≤ values.length) {n : Nat} {column : Column}
  (place : columns[n]? = some column)
include distinct full place

theorem lookup_zip :
    ∃ value, values[n]? = some value ∧ (columns.zip values).lookup column = some value := by
  induction columns generalizing values n with
  | nil => simp at place
  | cons head rest ih =>
    obtain ⟨unshared, distinct⟩ := List.nodup_cons.mp distinct
    cases values with
    | nil => simp at full
    | cons value later =>
      rw [List.zip_cons_cons, List.lookup_cons]
      cases n with
      | zero =>
        cases place
        rw [beq_self_eq_true]
        exact ⟨value, rfl, rfl⟩
      | succ n =>
        have other : column ≠ head := by
          rintro rfl
          exact unshared (List.mem_of_getElem? place)
        rw [beq_false_of_ne other]
        exact ih distinct (Nat.le_of_succ_le_succ full) place

theorem Table.bound_place : values[n]? = some (bound columns values column) := by
  obtain ⟨value, given, found⟩ := lookup_zip distinct full place
  rw [given, bound, found, Option.getD_some]

theorem Table.overwrite_place (row : Row) :
    values[n]? = some (overwrite columns values row column) := by
  obtain ⟨value, given, found⟩ := lookup_zip distinct full place
  rw [given, overwrite, found, Option.getD_some]

end Placed

-- A column that is declared with these words takes the value.
def Value.Fits : Value → List String → Prop
  | .null, type => "NULL" ∈ type ∧ "NOT" ∉ type
  | .id _, type => type.head? = some "UUID"
  | .text _, type => type.head? = some "TEXT"
  | .moment _, type => type.head? = some "TIMESTAMPTZ"
  | .integer _, type => type.head? = some "BIGINT"

/-- Each column takes its value in the row from the parameter of its number. -/
def Query.Fills (query : Query) (row : Row) (places : List (Column × Nat)) : Prop :=
  ∀ column n, (column, n) ∈ places → 0 < n ∧ query.parameters[n - 1]? = some (row column)

def Row.selected (row : Row) : ResultRow := fun column => some (row column)

/-- What is read from the row is the job. -/
def Row.Holds (row : Row) (job : Job) : Prop :=
  ∃ read, JobRow.decode row.selected = .ok read ∧ job.Micros read

end Sql

namespace JobRow

open Sql

theorem outcome_eq_ok {text : String} {outcome : Option FinalStatus} :
    ((FinalStatus.read text).mapError Flaw.domain).map some = .ok outcome ↔
      (some text).mapM FinalStatus.read = .ok outcome := by
  rw [Option.mapM_some]
  cases FinalStatus.read text <;> simp [Except.map, Except.mapError, Functor.map]

structure Reads (row : ResultRow) (job : Job) : Prop where
  id : ∃ id, required id? row .id = .ok id ∧ job.id = some id
  kind : ∃ name, required text? row .kind = .ok name ∧ JobKind.read name = .ok job.kind
  createdAt : required moment? row .createdAt = .ok job.createdAt
  outcome : ∃ text, nullable text? row .finalStatus = .ok text ∧
    text.mapM FinalStatus.read = .ok job.outcome
  stamps : ∀ phase, stamps row phase = .ok (job.progress.get phase)

theorem stamps_each {α : Type} {row : ResultRow} (make : Progress → α) {value : α} :
    (do
      let channelsDownload ← JobRow.stamps row .channelsDownload
      let usersDownload ← JobRow.stamps row .usersDownload
      let ticketsDownload ← JobRow.stamps row .ticketsDownload
      let workbookGeneration ← JobRow.stamps row .workbookGeneration
      let mailSending ← JobRow.stamps row .mailSending
      Except.ok (make
        { channelsDownload, usersDownload, ticketsDownload, workbookGeneration, mailSending })) =
        .ok value ↔
      ∃ progress, (∀ phase, JobRow.stamps row phase = .ok (progress.get phase)) ∧
        make progress = value := by
  simp only [bind_eq_ok]
  constructor
  · rintro ⟨channels, channelsRead, users, usersRead, tickets, ticketsRead, workbooks,
      workbooksRead, mails, mailsRead, same⟩
    refine ⟨⟨channels, users, tickets, workbooks, mails⟩, fun phase => ?_, Except.ok.inj same⟩
    cases phase <;> assumption
  · rintro ⟨progress, read, rfl⟩
    exact ⟨_, read .channelsDownload, _, read .usersDownload, _, read .ticketsDownload, _,
      read .workbookGeneration, _, read .mailSending, rfl⟩

theorem decode_eq_ok {row : ResultRow} {job : Job} : decode row = .ok job ↔ Reads row job := by
  unfold decode
  simp only [bind_eq_ok, mapError_eq_ok]
  constructor
  · rintro ⟨id, identified, name, named, kind, known, createdAt, created, text, told, rest⟩
    let make (outcome : Option FinalStatus) (progress : Progress) : Job :=
      { id := some id, kind, createdAt, progress, outcome }
    -- A status that is there is read before the stamps are, and none needs no reading.
    cases text with
    | none =>
      obtain ⟨progress, stamped, rfl⟩ := (stamps_each (make none)).mp rest
      exact ⟨⟨id, identified, rfl⟩, ⟨name, named, known⟩, created, ⟨none, told, rfl⟩, stamped⟩
    | some text =>
      obtain ⟨outcome, ended, rest⟩ := bind_eq_ok.mp rest
      obtain ⟨progress, stamped, rfl⟩ := (stamps_each (make outcome)).mp rest
      exact ⟨⟨id, identified, rfl⟩, ⟨name, named, known⟩, created,
        ⟨some text, told, outcome_eq_ok.mp ended⟩, stamped⟩
  · rintro ⟨⟨id, identified, same⟩, ⟨name, named, known⟩, created, ⟨text, told, ended⟩, stamped⟩
    refine ⟨id, identified, name, named, job.kind, known, job.createdAt, created, text, told, ?_⟩
    let make (outcome : Option FinalStatus) (progress : Progress) : Job :=
      { id := some id, kind := job.kind, createdAt := job.createdAt, progress, outcome }
    have whole : make job.outcome job.progress = job := by simp only [make, ← same]
    have read := (stamps_each (make job.outcome)).mpr ⟨job.progress, stamped, whole⟩
    cases text with
    | none =>
      rw [← Except.ok.inj ended] at read
      exact read
    | some text => exact bind_eq_ok.mpr ⟨job.outcome, outcome_eq_ok.mpr ended, read⟩

structure Written (row : Row) (job : Job) : Prop where
  outcome : row .finalStatus = statusText job.outcome
  started : ∀ phase, row (.started phase) = stamp (job.progress.get phase).started
  finished : ∀ phase, row (.finished phase) = stamp (job.progress.get phase).finished

theorem nullable_stamp {row : Row} {column : Column} {time : Option Timestamp}
    (held : row column = stamp time) :
    ∃ read, nullable moment? row.selected column = .ok read ∧
      Option.Rel Timestamp.Micros time read := by
  rw [nullable, Row.selected, held]
  cases time with
  | none => exact ⟨none, rfl, .none⟩
  | some t => exact ⟨_, rfl, .some t.ofMicros_toMicros⟩

namespace Written

variable {row : Row} {job : Job} (written : Written row job)
include written

theorem outcome_read : ∃ text, nullable text? row.selected .finalStatus = .ok text ∧
    text.mapM FinalStatus.read = .ok job.outcome := by
  rw [nullable, Row.selected, written.outcome]
  cases job.outcome with
  | none => exact ⟨none, rfl, rfl⟩
  | some status =>
    refine ⟨some status.text, rfl, ?_⟩
    rw [Option.mapM_some, status.read_text]
    rfl

theorem stamps_read : ∃ progress : Progress,
    (∀ phase, stamps row.selected phase = .ok (progress.get phase)) ∧
      ∀ phase, (job.progress.get phase).Micros (progress.get phase) := by
  have read : ∀ phase, ∃ found, stamps row.selected phase = .ok found ∧
      (job.progress.get phase).Micros found := by
    intro phase
    obtain ⟨started, startedRead, startedNear⟩ := nullable_stamp (written.started phase)
    obtain ⟨finished, finishedRead, finishedNear⟩ := nullable_stamp (written.finished phase)
    refine ⟨⟨started, finished⟩, ?_, startedNear, finishedNear⟩
    rw [stamps, startedRead, finishedRead]
    rfl
  choose found read near using read
  refine ⟨.tabulate found, fun phase => ?_, fun phase => ?_⟩
  · rw [Progress.get_tabulate, read]
  · rw [Progress.get_tabulate]
    exact near phase

end Written

section Held

variable {α : Type} {read : Value → Option α} {row : Row} {column : Column}

theorem nullable_ok {found : Option α} (ok : nullable read row.selected column = .ok found) :
    row column = .null ∧ found = none ∨ ∃ value, read (row column) = some value ∧
      found = some value := by
  rw [nullable, Row.selected] at ok
  split at ok
  case h_1 none => cases none
  case h_2 null =>
    exact .inl ⟨Option.some.inj null, (Except.ok.inj ok).symm⟩
  case h_3 value _ given =>
    cases given
    split at ok
    case h_1 value taken => exact .inr ⟨value, taken, (Except.ok.inj ok).symm⟩
    case h_2 => cases ok

theorem required_ok {value : α} (ok : required read row.selected column = .ok value) :
    read (row column) = some value := by
  obtain ⟨found, given, ok⟩ := bind_eq_ok.mp ok
  rcases nullable_ok given with ⟨-, rfl⟩ | ⟨taken, read, rfl⟩
  · cases ok
  · exact read.trans (congrArg some (Except.ok.inj ok))

theorem id?_eq_some {value : Value} {id : JobId} : id? value = some id ↔ value = .id id := by
  cases value <;> simp [id?]

theorem text?_eq_some {value : Value} {text : String} :
    text? value = some text ↔ value = .text text := by
  cases value <;> simp [text?]

theorem moment?_eq_some {value : Value} {t : Timestamp} :
    moment? value = some t ↔ ∃ micros, value = .moment micros ∧ t = .ofMicros micros := by
  cases value <;> simp [moment?, eq_comm]

theorem required_id {id : JobId} (read : required id? row.selected .id = .ok id) :
    row .id = .id id := id?_eq_some.mp (required_ok read)

theorem moment_fits {found : Option Timestamp}
    (ok : nullable moment? row.selected column = .ok found)
    (typed : Command.wordsFrom [] column.type.toList = ["TIMESTAMPTZ", "NULL"]) :
    (row column).Fits (Command.wordsFrom [] column.type.toList) := by
  rw [typed]
  rcases nullable_ok ok with ⟨null, -⟩ | ⟨t, read, -⟩
  · rw [null]
    exact ⟨by decide, by decide⟩
  · obtain ⟨micros, held, -⟩ := moment?_eq_some.mp read
    rw [held]
    rfl

theorem holds_fits {job : Job} (held : row.Holds job) (column : Column) :
    (row column).Fits (Command.wordsFrom [] column.type.toList) := by
  obtain ⟨read, decoded, -⟩ := held
  obtain ⟨⟨id, identified, -⟩, ⟨name, named, -⟩, created, ⟨text, told, -⟩, stamped⟩ :=
    decode_eq_ok.mp decoded
  have typed : Command.wordsFrom [] "TIMESTAMPTZ NULL".toList = ["TIMESTAMPTZ", "NULL"] := by
    decide +kernel
  cases column with
  | id =>
    rw [required_id identified, Value.Fits]
    decide +kernel
  | kind =>
    rw [text?_eq_some.mp (required_ok named), Value.Fits]
    decide +kernel
  | createdAt =>
    obtain ⟨micros, held, -⟩ := moment?_eq_some.mp (required_ok created)
    rw [held, Value.Fits]
    decide +kernel
  | finalStatus =>
    rcases nullable_ok told with ⟨null, -⟩ | ⟨status, read, -⟩
    · rw [null, Value.Fits]
      decide +kernel
    · rw [text?_eq_some.mp read, Value.Fits]
      decide +kernel
  | started phase =>
    obtain ⟨started, began, -⟩ := bind_eq_ok.mp (stamped phase)
    exact moment_fits began typed
  | finished phase =>
    obtain ⟨_, -, rest⟩ := bind_eq_ok.mp (stamped phase)
    obtain ⟨finished, ended, -⟩ := bind_eq_ok.mp rest
    exact moment_fits ended typed

end Held

theorem nullable_congr {α : Type} {row other : ResultRow} {column : Column}
    (same : row column = other column) (read : Value → Option α) :
    nullable read row column = nullable read other column := by
  rw [nullable, nullable, same]

theorem required_congr {α : Type} {row other : ResultRow} {column : Column}
    (same : row column = other column) (read : Value → Option α) :
    required read row column = required read other column := by
  rw [required, required, nullable_congr same]

theorem insertion_full (id : JobId) (job : Job) :
    Column.all.length ≤ (insertion id job).parameters.length := Nat.le_refl 14

theorem change_full (job : Job) : Column.progress.length ≤ (progressValues job).length :=
  Nat.le_refl 11

theorem inserted_written (id : JobId) (job : Job) :
    Written (Table.bound Column.all (insertion id job).parameters) job :=
  ⟨rfl, fun phase => by cases phase <;> rfl, fun phase => by cases phase <;> rfl⟩

theorem overwritten_written (job : Job) (row : Row) :
    Written (Table.overwrite Column.progress (progressValues job) row) job :=
  ⟨rfl, fun phase => by cases phase <;> rfl, fun phase => by cases phase <;> rfl⟩

theorem inserted_holds {id : JobId} {job : Job} (named : job.id = some id) :
    Row.Holds (Table.bound Column.all (insertion id job).parameters) job := by
  obtain ⟨progress, stamped, near⟩ := (inserted_written id job).stamps_read
  let read : Job := { job with createdAt := .ofMicros job.createdAt.toMicros, progress }
  refine ⟨read, decode_eq_ok.mpr ?_, rfl, rfl, job.createdAt.ofMicros_toMicros, near, rfl⟩
  exact ⟨⟨id, rfl, named⟩, ⟨job.kind.name, rfl, job.kind.read_name⟩, rfl,
    (inserted_written id job).outcome_read, stamped⟩

theorem overwritten_holds {row : Row} {stored : Job} (held : row.Holds stored) (job : Job) :
    Row.Holds (Table.overwrite Column.progress (progressValues job) row)
      { stored with progress := job.progress, outcome := job.outcome } := by
  obtain ⟨read, decoded, micros⟩ := held
  obtain ⟨⟨id, identified, same⟩, ⟨name, named, known⟩, created, -, -⟩ := decode_eq_ok.mp decoded
  obtain ⟨progress, stamped, near⟩ := (overwritten_written job row).stamps_read
  refine ⟨{ read with progress, outcome := job.outcome }, decode_eq_ok.mpr ?_, micros.id,
    micros.kind, micros.createdAt, near, rfl⟩
  -- The id, the kind and the moment of creation stand in columns that no update names.
  refine ⟨⟨id, ?_, same⟩, ⟨name, ?_, known⟩, ?_, (overwritten_written job row).outcome_read,
    stamped⟩
  · exact (required_congr rfl id?).trans identified
  · exact (required_congr rfl text?).trans named
  · exact (required_congr rfl moment?).trans created

theorem holds_id {row : Row} {job : Job} (held : row.Holds job) :
    ∃ id, job.id = some id ∧ row .id = .id id := by
  obtain ⟨read, decoded, micros⟩ := held
  obtain ⟨id, identified, named⟩ := (decode_eq_ok.mp decoded).id
  exact ⟨id, micros.id.symm.trans named, required_id identified⟩

theorem execute_insertion {id : JobId} {job : Job} {table : Table}
    (fresh : table.rows.any (Table.hasId (.id id)) = false) :
    table.execute (insertion id job) = (.ok { affected := 1 },
      { rows := table.rows ++ [Table.bound Column.all (insertion id job).parameters] }) :=
  if_neg (ne_true_of_eq_false fresh)

theorem execute_selection {id : JobId} {row : Row} {rows : List Row}
    (fresh : rows.any (Table.hasId (.id id)) = false) (held : row .id = .id id) :
    (Table.execute { statement := .select .byId .unordered .unlimited, parameters := [.id id] }
      { rows := rows ++ [row] }).1 = .ok { rows := [row.selected] } := by
  have others : rows.filter (Table.hasId (.id id)) = [] := by
    simpa [List.filter_eq_nil_iff] using fresh
  have own : Table.hasId (.id id) row = true := by rw [Table.hasId, held, beq_self_eq_true]
  have found : (rows ++ [row]).filter (Table.keeps .byId [.id id]) = [row] := by
    change (rows ++ [row]).filter (Table.hasId (.id id)) = [row]
    rw [List.filter_append, others, List.filter_cons_of_pos own]
    rfl
  simp only [Table.execute, Table.ordered, Table.windowed, found]
  rfl

theorem insertion_fills (id : JobId) (job : Job) :
    (insertion id job).Fills (Table.bound Column.all (insertion id job).parameters)
      (Column.all.zipIdx 1) := by
  intro column n place
  obtain ⟨some, place⟩ := List.mk_mem_zipIdx_iff_le_and_getElem?_sub.mp place
  exact ⟨some, Table.bound_place Column.all_nodup (insertion_full id job) place⟩

theorem change_fills (id : JobId) (job : Job) (row : Row) :
    (change id job).Fills (Table.overwrite Column.progress (progressValues job) row)
      (Column.progress.zipIdx 2) := by
  intro column n place
  obtain ⟨some, place⟩ := List.mk_mem_zipIdx_iff_le_and_getElem?_sub.mp place
  have behind : n - 1 = (n - 2) + 1 := by omega
  rw [behind]
  exact ⟨by omega, Table.overwrite_place Column.progress_nodup (change_full job) place row⟩

/-- A job that is inserted, or written over another one, is read back from its row to the
microsecond, and each statement says in its text which parameter goes to which column. -/
theorem rows_hold_what_was_written (id : JobId) (job : Job) (named : job.id = some id) :
    Function.Injective Column.name ∧
    (∃ declared, Command.read? Statement.createTable.text = some (.create declared) ∧
      declared.map Prod.fst = Column.all ∧
      ∀ (row : Row) (stored : Job), row.Holds stored → ∀ column type, (column, type) ∈ declared →
        (row column).Fits type) ∧
    (∀ filter order window, Command.read? (Statement.select filter order window).text =
      some (.select Column.all filter order window)) ∧
    (∀ table : Table, table.rows.any (Table.hasId (.id id)) = false → ∃ row : Row,
      table.execute (insertion id job) = (.ok { affected := 1 }, { rows := table.rows ++ [row] }) ∧
      (∀ (n : Nat) (column : Column), Column.all[n]? = some column →
        (insertion id job).parameters[n]? = some (row column)) ∧
      (∃ places, Command.read? (insertion id job).statement.text = some (.insert places) ∧
        places.map Prod.fst = Column.all ∧ (insertion id job).Fills row places) ∧
      (Table.execute { statement := .select .byId .unordered .unlimited, parameters := [.id id] }
        { rows := table.rows ++ [row] }).1 = .ok { rows := [row.selected] } ∧
      row.Holds job) ∧
    (∀ table : Table, ∃ overwritten : Row → Row,
      table.execute (change id job) =
        (.ok { affected := table.rows.countP (Table.hasId (.id id)) },
          { rows := table.rows.map overwritten }) ∧
      ∀ row stored, row.Holds stored →
        (stored.id = some id →
          (∀ (n : Nat) (column : Column), Column.progress[n]? = some column →
            (change id job).parameters[n + 1]? = some (overwritten row column)) ∧
          (∃ places, Command.read? (change id job).statement.text =
              some (.update places (.id, 1)) ∧
            (change id job).parameters[0]? = some (.id id) ∧
            places.map Prod.fst = Column.progress ∧
            (change id job).Fills (overwritten row) places) ∧
          (overwritten row).Holds
            { stored with progress := job.progress, outcome := job.outcome }) ∧
        (stored.id ≠ some id → overwritten row = row)) ∧
    ∀ (history : History) (stored : Job), history.find? id = some stored →
      (history.update job).1 = .ok () ∧
      (history.update job).2.find? id =
        some { stored with progress := job.progress, outcome := job.outcome } := by
  refine ⟨Column.name_injective, ⟨_, Command.read?_createTable, rfl, ?_⟩,
    Command.read?_select, fun table fresh => ?_, fun table => ?_, fun history stored found => ?_⟩
  · intro row stored held column type declared
    obtain ⟨_, -, same⟩ := List.mem_map.mp declared
    cases same
    exact holds_fits held column
  · exact ⟨_, execute_insertion fresh,
      fun n column => Table.bound_place Column.all_nodup (insertion_full id job),
      ⟨_, Command.read?_insert (by decide), by simp, insertion_fills id job⟩,
      execute_selection fresh rfl, inserted_holds named⟩
  · refine ⟨fun row => if Table.hasId (.id id) row then
      Table.overwrite Column.progress (progressValues job) row else row, rfl, ?_⟩
    intro row stored held
    obtain ⟨own, owned, there⟩ := holds_id held
    have same : Table.hasId (.id id) row = true ↔ stored.id = some id := by
      rw [Table.hasId, there, owned]
      simp
    constructor
    · intro mine
      dsimp only
      rw [if_pos (same.mpr mine)]
      exact ⟨fun n column place =>
        Table.overwrite_place Column.progress_nodup (change_full job) place row,
        ⟨_, Command.read?_update (by decide), rfl, by simp, change_fills id job row⟩,
        overwritten_holds held job⟩
    · intro others
      exact if_neg (mt same.mp others)
  · rw [History.find?_update named id history, if_pos rfl, found]
    refine ⟨?_, rfl⟩
    rw [History.update, named]
    dsimp only
    rw [found]

section Failing

def begun : Job := { Job.new .fieldEngineers ⟨951782400, 123456789⟩ with id := some ⟨1⟩ }

def failed : Job :=
  { begun with
    progress := { channelsDownload := { started := some ⟨951782401, 5⟩ } }
    outcome := some (.error "Success") }

theorem rows_hold_a_failed_job :
    ∃ row after : Row,
      Table.execute (insertion ⟨1⟩ begun) {} = (.ok { affected := 1 }, { rows := [row] }) ∧
      Table.execute (change ⟨1⟩ failed) { rows := [row] } =
        (.ok { affected := [row].countP (Table.hasId (.id ⟨1⟩)) }, { rows := [after] }) ∧
      after.Holds failed ∧
      (History.update failed { capacity := 10, jobs := [begun] }).2.find? ⟨1⟩ = some failed := by
  obtain ⟨-, -, -, inserts, -, -⟩ := rows_hold_what_was_written ⟨1⟩ begun rfl
  obtain ⟨-, -, -, -, updates, merges⟩ := rows_hold_what_was_written ⟨1⟩ failed rfl
  obtain ⟨row, inserted, -, -, -, held⟩ := inserts {} rfl
  obtain ⟨overwritten, updated, holds⟩ := updates { rows := [row] }
  exact ⟨row, overwritten row, inserted, updated, ((holds row begun held).1 rfl).2.2,
    (merges { capacity := 10, jobs := [begun] } begun rfl).2⟩

end Failing

end JobRow

end TicketReports
