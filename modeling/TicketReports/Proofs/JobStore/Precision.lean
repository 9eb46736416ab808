import TicketReports.Proofs.JobStore.Rows

set_option autoImplicit false

namespace TicketReports

def Timestamp.atMicros (t : Timestamp) : Timestamp := ofMicros t.toMicros

def Stamps.atMicros (stamps : Stamps) : Stamps where
  started := stamps.started.map Timestamp.atMicros
  finished := stamps.finished.map Timestamp.atMicros

def Progress.atMicros (progress : Progress) : Progress :=
  .tabulate fun phase => (progress.get phase).atMicros

def Job.atMicros (job : Job) : Job :=
  { job with createdAt := job.createdAt.atMicros, progress := job.progress.atMicros }

namespace JobRow

open Sql

def row (job : Job) : Row
  | .id => job.id.elim .null .id
  | .kind => .text job.kind.name
  | .createdAt => .moment job.createdAt.toMicros
  | .finalStatus => statusText job.outcome
  | .started phase => stamp (job.progress.get phase).started
  | .finished phase => stamp (job.progress.get phase).finished

theorem row_written (job : Job) : Written (row job) job := ⟨rfl, fun _ => rfl, fun _ => rfl⟩

theorem bound_insertion (id : JobId) (job : Job) :
    Table.bound Column.all (insertion id job).parameters = row { job with id := some id } := by
  funext column
  cases column with
  | started phase | finished phase => cases phase <;> rfl
  | _ => rfl

theorem overwrite_row (stored job : Job) :
    Table.overwrite Column.progress (progressValues job) (row stored) =
      row (History.merge stored job) := by
  funext column
  cases column with
  | started phase | finished phase => cases phase <;> rfl
  | _ => rfl

theorem hasId_row (id : JobId) (job : Job) :
    Table.hasId (.id id) (row job) = (job.id == some id) := by
  cases named : job.id <;> simp [Table.hasId, row, named]

theorem change_row (id : JobId) (stored job : Job) :
    (if Table.hasId (.id id) (row stored) then
      Table.overwrite Column.progress (progressValues job) (row stored)
    else row stored) =
      row (if stored.id = some id then History.merge stored job else stored) := by
  rw [hasId_row]
  by_cases own : stored.id = some id <;> simp [own, overwrite_row]

theorem unfinished_row (job : Job) : Table.keeps .unfinished [] (row job) = job.isRunning := by
  cases ended : job.outcome <;> simp [Table.keeps, row, statusText, Job.isRunning, ended]

theorem nullable_row {row : Row} {column : Column} {time : Option Timestamp}
    (held : row column = stamp time) :
    nullable moment? row.selected column = .ok (time.map Timestamp.atMicros) := by
  rw [nullable, Row.selected, held]
  cases time <;> rfl

theorem read_row {job : Job} (named : job.id ≠ none) :
    JobRow.read (row job).selected = .ok job.atMicros := by
  obtain ⟨id, named⟩ := Option.ne_none_iff_exists'.mp named
  have identified : required id? (row job).selected .id = .ok id := by
    rw [required, nullable, Row.selected, row, named]
    rfl
  have stamped : ∀ phase,
      stamps (row job).selected phase = .ok (job.atMicros.progress.get phase) := by
    intro phase
    rw [stamps, nullable_row ((row_written job).started phase),
      nullable_row ((row_written job).finished phase), Job.atMicros, Progress.atMicros,
      Progress.get_tabulate]
    rfl
  have decoded : decode (row job).selected = .ok job.atMicros :=
    decode_eq_ok.mpr ⟨⟨id, identified, named⟩, ⟨job.kind.name, rfl, job.kind.read_name⟩, rfl,
      (row_written job).outcome_read, stamped⟩
  rw [read, decoded]
  rfl

theorem mapM_read_row {jobs : List Job} (named : ∀ job ∈ jobs, job.id ≠ none) :
    ((jobs.map row).map Row.selected).mapM JobRow.read = .ok (jobs.map Job.atMicros) := by
  induction jobs with
  | nil => rfl
  | cons job rest ih =>
    rw [List.forall_mem_cons] at named
    rw [List.map_cons, List.map_cons, List.mapM_cons, read_row named.1, ih named.2]
    rfl

end JobRow

end TicketReports
