import TicketReports.Pipeline.Scripted
import TicketReports.Proofs.Service.Ownership

set_option autoImplicit false

namespace TicketReports

namespace Submission

variable {σ W : Type} [JobStore σ]

theorem step_keeps (fresh : JobId) (now : Timestamp) (submission : Submission)
    (p : Processor σ W) (id : JobId) :
    (submission.accepted? = some id → (submission.step fresh now p).1.accepted? = some id) ∧
      (submission.refused? = some id → (submission.step fresh now p).1.refused? = some id) := by
  cases submission with
  | storing kind => simp [accepted?, refused?]
  | offering other => simp [accepted?, refused?]
  | offered other => simp [step, accepted?, refused?]
  | saving other error job => simp [step, accepted?, refused?]
  | ended verdict => exact ⟨fun accepts => accepts, fun refuses => refuses⟩
  | loading other error =>
    constructor
    · intro accepts
      cases accepts
    · intro refuses
      simp only [step, load]
      repeat' split
      all_goals exact refuses

end Submission

namespace Traffic

variable {W : Type}

section Persistence

variable {σ : Type} [JobStore σ] [Stages W]

theorem At.take {traffic : Traffic σ W} {index : Nat} {submission : Submission}
    (place : traffic.At index submission) (turn : Turn) :
    ∃ next, (traffic.take turn).1.At index next ∧
      ∀ id, (submission.accepted? = some id → next.accepted? = some id) ∧
        (submission.refused? = some id → next.refused? = some id) := by
  have inside : index < traffic.submissions.length := (List.getElem?_eq_some_iff.mp place).1
  cases turn with
  | arrive kind =>
    refine ⟨submission, ?_, fun id => ⟨fun accepts => accepts, fun refuses => refuses⟩⟩
    exact (List.getElem?_append_left inside).trans place
  | submission other fresh now =>
    rw [Traffic.take]
    cases there : traffic.submissions[other]? with
    | none => exact ⟨submission, place, fun id => ⟨fun accepts => accepts, fun refuses => refuses⟩⟩
    | some found =>
      by_cases same : other = index
      · subst same
        cases there.symm.trans place
        exact ⟨_, List.getElem?_set_self inside, submission.step_keeps fresh now traffic.processor⟩
      · refine ⟨submission, ?_, fun id => ⟨fun accepts => accepts, fun refuses => refuses⟩⟩
        exact (List.getElem?_set_ne same).trans place
  | processor event =>
    exact ⟨submission, place, fun id => ⟨fun accepts => accepts, fun refuses => refuses⟩⟩
  | lookUp id =>
    exact ⟨submission, place, fun id => ⟨fun accepts => accepts, fun refuses => refuses⟩⟩
  | listPage page =>
    exact ⟨submission, place, fun id => ⟨fun accepts => accepts, fun refuses => refuses⟩⟩

theorem At.takeAll {traffic : Traffic σ W} {index : Nat} {submission : Submission}
    (place : traffic.At index submission) (turns : List Turn) :
    ∃ next, (traffic.takeAll turns).1.At index next ∧
      ∀ id, (submission.accepted? = some id → next.accepted? = some id) ∧
        (submission.refused? = some id → next.refused? = some id) := by
  induction turns generalizing traffic submission with
  | nil => exact ⟨submission, place, fun id => ⟨fun accepts => accepts, fun refuses => refuses⟩⟩
  | cons turn turns ih =>
    obtain ⟨middle, there, first⟩ := place.take turn
    obtain ⟨last, placed, later⟩ := ih there
    refine ⟨last, placed, fun id => ⟨fun accepts => ?_, fun refuses => ?_⟩⟩
    · exact (later id).1 ((first id).1 accepts)
    · exact (later id).2 ((first id).2 refuses)

theorem takeAll_append (traffic : Traffic σ W) (first later : List Turn) :
    traffic.takeAll (first ++ later) =
      (((traffic.takeAll first).1.takeAll later).1,
        (traffic.takeAll first).2 ++ ((traffic.takeAll first).1.takeAll later).2) := by
  induction first generalizing traffic with
  | nil => rfl
  | cons turn turns ih =>
    rw [List.cons_append]
    simp only [takeAll, ih, List.append_assoc]

theorem drawn_append (traffic : Traffic σ W) (first later : List Turn) :
    traffic.drawn (first ++ later) =
      traffic.drawn first ++ (traffic.takeAll first).1.drawn later := by
  induction first generalizing traffic with
  | nil => rfl
  | cons turn turns ih =>
    rw [List.cons_append, drawn, ih, drawn, List.append_assoc]
    rfl

end Persistence

section Startup

variable [Stages W]

theorem steps_apart (p : Processor History W) (events : List Event)
    (apart : ∀ event ∈ events, event.byCaller = false) :
    (p.steps events).1.caller = p.caller ∧ Note.admissions (p.steps events).2 = [] ∧
      Note.refusals (p.steps events).2 = [] := by
  induction events generalizing p with
  | nil => exact ⟨rfl, rfl, rfl⟩
  | cons event events ih =>
    obtain ⟨caller, admissions, refusals⟩ := p.step_apart event (apart event List.mem_cons_self)
    obtain ⟨later, others, more⟩ :=
      ih (p.step event).1 fun other member => apart other (List.mem_cons_of_mem event member)
    refine ⟨later.trans caller, ?_, ?_⟩
    · rw [Processor.steps, Note.admissions_append, admissions, others]
      rfl
    · rw [Processor.steps, Note.refusals_append, refusals, more]
      rfl

theorem steps_ids (p : Processor History W) (events : List Event) :
    (p.steps events).1.store.jobs.map Job.id = p.store.jobs.map Job.id := by
  induction events generalizing p with
  | nil => rfl
  | cons event events ih => exact (ih (p.step event).1).trans (step_ids p event)

def opened (timeLimit : Nat) (history : History) (world : W) (startup : List Event) :
    Traffic History W :=
  { processor := ((Processor.new timeLimit history world).steps startup).1 }

theorem Owned.opened (timeLimit : Nat) (history : History) (world : W) {startup : List Event}
    (apart : ∀ event ∈ startup, event.byCaller = false)
    (started : (Traffic.opened timeLimit history world startup).processor.worker.started = true)
    (distinct : (history.jobs.map Job.id).Nodup) :
    Owned (Traffic.opened timeLimit history world startup)
      ((Processor.new timeLimit history world).steps startup).2 (history.jobs.map Job.id) := by
  have admission := Processor.Admission.reached timeLimit history world startup
  obtain ⟨caller, admissions, refusals⟩ := steps_apart (.new timeLimit history world) startup apart
  have ids := steps_ids (.new timeLimit history world) startup
  have nobody :
      ∀ id, id ∉ (Traffic.opened timeLimit history world startup).processor.occupants := by
    intro id on
    have accepted := admission.accepted on
    rw [admissions, caller] at accepted
    simp [Processor.new] at accepted
  refine ⟨admission, ⟨?_, ?_⟩, started, ?_, ?_, ?_, ?_, ?_, ?_, ?_, ?_⟩
  · exact fun id waits => (nobody id (Processor.pending_occupants waits)).elim
  · intro run running
    refine (nobody run.id ?_).elim
    simp [Processor.occupants, running, Worker.held?]
  · exact ids ▸ distinct
  · exact fun id member => ids ▸ member
  · exact fun index submission id place => by cases place
  · exact fun first second submission other id place => by cases place
  · exact fun index submission place => by cases place
  · exact fun index id place => by cases place
  · intro id member
    rw [admissions, show (Traffic.opened timeLimit history world startup).processor.caller = none
      from caller] at member
    cases member
  · intro id member
    rw [refusals] at member
    cases member

end Startup

namespace Fate

variable {traffic : Traffic History W} {turn : Turn} {id : JobId} {before after : Option Job}

theorem stays (fate : Fate traffic turn id before after) {job : Job} (held : before = some job)
    (running : job.isRunning = true) : ∃ next, after = some next := by
  cases fate with
  | kept kept => exact ⟨job, kept.running held running⟩
  | added _ absent _ _ => cases absent.symm.trans held
  | worked _ next _ _ saved _ => exact ⟨next, saved⟩
  | refused _ next _ _ saved _ => exact ⟨next, saved⟩

theorem final (fate : Fate traffic turn id before after) {job next : Job} {status : FinalStatus}
    (held : before = some job) (saved : after = some next) (spent : job.outcome = some status) :
    next.outcome = some status := by
  have finished : job.isRunning ≠ true := by simp [Job.isRunning, spent]
  cases fate with
  | kept kept =>
    cases held.symm.trans (kept.eq saved)
    exact spent
  | added _ absent _ _ => cases absent.symm.trans held
  | worked _ _ has running _ _ =>
    cases held.symm.trans has
    exact absurd running finished
  | refused _ _ has running _ _ =>
    cases held.symm.trans has
    exact absurd running finished

theorem written (fate : Fate traffic turn id before after) {next : Job} {status : FinalStatus}
    (saved : after = some next) (spent : next.outcome = some status) :
    (∃ job, before = some job ∧ job.outcome = some status) ∨ WorkerTurn traffic turn id ∨
      RefusedTurn traffic turn id := by
  cases fate with
  | kept kept => exact .inl ⟨next, kept.eq saved, spent⟩
  | worked _ _ _ _ _ works => exact .inr (.inl works)
  | refused _ _ _ _ _ refuses => exact .inr (.inr refuses)
  | added _ _ has running =>
    cases saved.symm.trans has
    simp [Job.isRunning, spent] at running

end Fate

/-- What holds on every turn. -/
structure Sound [Stages W] (before : Traffic History W) (turn : Turn) (notes : List Note) :
    Prop where
  -- A running job is not lost.
  kept : ∀ id job, before.processor.store.find? id = some job → job.isRunning = true →
    ∃ next, (before.take turn).1.processor.store.find? id = some next
  -- A final status is not written over.
  final : ∀ id job next status, before.processor.store.find? id = some job →
    (before.take turn).1.processor.store.find? id = some next → job.outcome = some status →
    next.outcome = some status
  -- A refused job is found, can be closed and is saved.
  rejected : ∀ index id error, (before.At index (.loading id error) →
      ∃ job next, (JobStore.get id before.processor.store).1 = .ok job ∧
        job.finish (.error error.message) = .ok next) ∧
    ∀ next, before.At index (.saving id error next) →
      (JobStore.update next before.processor.store).1 = .ok ()
  -- What the worker records is accepted.
  recorded : ∀ run, before.processor.worker = .running run →
    (∀ change rest, run.todo = .record change :: rest →
      ∃ job, (JobStore.get run.id before.processor.store).1 = .ok job ∧
        ∀ now, ∃ next, job.apply now change = .ok next) ∧
    ∀ next rest, run.todo = .save next :: rest →
      (JobStore.update next before.processor.store).1 = .ok ()
  -- A new final status comes from the worker, and the job was not refused, or from the submission
  -- of a refused job, and the job was not admitted.
  written : ∀ id next status, (before.take turn).1.processor.store.find? id = some next →
    next.outcome = some status →
    (∃ job, before.processor.store.find? id = some job ∧ job.outcome = some status) ∨
      WorkerTurn before turn id ∧ id ∉ Note.refusals notes ∨
      RefusedTurn before turn id ∧ id ∉ Note.admissions notes

namespace Owned

variable {traffic : Traffic History W} {notes : List Note} {known : List (Option JobId)}

theorem rejects (owned : Owned traffic notes known) (index : Nat) (id : JobId)
    (error : AdmissionError) :
    (traffic.At index (.loading id error) →
      ∃ job next, (JobStore.get id traffic.processor.store).1 = .ok job ∧
        job.finish (.error error.message) = .ok next) ∧
    ∀ next, traffic.At index (.saving id error next) →
      (JobStore.update next traffic.processor.store).1 = .ok () := by
  constructor
  · intro place
    obtain ⟨job, held, running⟩ := owned.relies index _ place
    exact ⟨job, _, Steady.get_found held, Job.finish_running running _⟩
  · intro next place
    have holds := (owned.relies index _ place).holds
    obtain ⟨job, held, _⟩ := owned.relies index _ place
    exact Steady.update_found holds held

theorem recordings (owned : Owned traffic notes known) (run : Run)
    (running : traffic.processor.worker = .running run) :
    (∀ change rest, run.todo = .record change :: rest →
      ∃ job, (JobStore.get run.id traffic.processor.store).1 = .ok job ∧
        ∀ now, ∃ next, job.apply now change = .ok next) ∧
    ∀ next rest, run.todo = .save next :: rest →
      (JobStore.update next traffic.processor.store).1 = .ok () := by
  obtain ⟨outcome, owes⟩ := owned.serves.owing run running
  constructor
  · intro change rest todo
    obtain ⟨job, held, _, accepts⟩ := owes.accepted todo
    exact ⟨job, Steady.get_found held, accepts⟩
  · intro next rest todo
    obtain ⟨job, held, _, same⟩ := owes.saves todo
    have holds : next.id = some run.id := by
      rw [← same, History.merge_id]
      exact Steady.peek_id held
    exact Steady.update_found holds held

end Owned

theorem WorkerTurn.not_refused [Stages W] {before : Traffic History W} {turn : Turn}
    {soFar notes : List Note} {known wider : List (Option JobId)} {id : JobId} {turns : List Turn}
    (works : WorkerTurn before turn id) (owned : Owned before soFar known)
    (last : Owned (before.takeAll turns).1 notes wider) : id ∉ Note.refusals notes := by
  obtain ⟨away, now, run, rfl, running, rfl⟩ := works
  have on : run.id ∈ before.processor.occupants := by
    simp [Processor.occupants, running, Worker.held?]
  obtain ⟨index, submission, place, accepts⟩ :=
    owned.accepted run.id (owned.admission.accepted on)
  obtain ⟨next, there, keeps⟩ := place.takeAll turns
  exact last.exclusive ⟨index, next, there, (keeps run.id).1 accepts⟩

theorem RefusedTurn.not_admitted [Stages W] {before : Traffic History W} {turn : Turn}
    {notes : List Note} {wider : List (Option JobId)} {id : JobId} {turns : List Turn}
    (refuses : RefusedTurn before turn id)
    (last : Owned (before.takeAll turns).1 notes wider) : id ∉ Note.admissions notes := by
  obtain ⟨index, fresh, now, error, job, rfl, place⟩ := refuses
  obtain ⟨next, there, keeps⟩ := place.takeAll turns
  exact last.unadmitted ⟨index, next, there, (keeps id).2 rfl⟩

/-- A turn loses no running job and writes over no outcome, whatever the order of the turns. -/
theorem sound_of_interleaving [Stages W] (timeLimit : Nat) (history : History) (world : W)
    (startup : List Event) (first later : List Turn) (turn : Turn)
    (apart : ∀ event ∈ startup, event.byCaller = false)
    (started : (opened timeLimit history world startup).processor.worker.started = true)
    (orderly : ∀ other ∈ first ++ turn :: later, other.orderly = true)
    (fresh : (history.jobs.map Job.id ++
      ((opened timeLimit history world startup).drawn (first ++ turn :: later)).map some).Nodup) :
    Sound ((opened timeLimit history world startup).takeAll first).1 turn
      ((opened timeLimit history world startup).takeAll (first ++ turn :: later)).2 := by
  have start := Owned.opened timeLimit history world apart started (List.nodup_append.mp fresh).1
  obtain ⟨-, admissions, refusals⟩ := steps_apart (.new timeLimit history world) startup apart
  have last := start.takeAll (first ++ turn :: later) orderly fresh
  rw [drawn_append, List.map_append, ← List.append_assoc] at fresh
  have soFar := start.takeAll first
    (fun other member => orderly other (List.mem_append_left _ member))
    (List.nodup_append.mp fresh).1
  generalize (Processor.new timeLimit history world).steps startup = started' at *
  generalize opened timeLimit history world startup = service at *
  generalize before_eq : (service.takeAll first).1 = before at *
  have unknown : ∀ id ∈ before.draws turn,
      some id ∉ history.jobs.map Job.id ++ (service.drawn first).map some := by
    intro id drawn old
    refine (List.nodup_append.mp fresh).2.2 _ old _ (List.mem_map_of_mem ?_) rfl
    exact List.mem_append_left _ drawn
  have fate := soFar.fate turn unknown
  have ends : ∀ notes, Note.refusals (started'.2 ++ notes) = Note.refusals notes ∧
      Note.admissions (started'.2 ++ notes) = Note.admissions notes := by
    intro notes
    rw [Note.refusals_append, Note.admissions_append, refusals, admissions]
    exact ⟨rfl, rfl⟩
  rw [takeAll_append, before_eq] at last
  refine ⟨fun id job => (fate id).stays, fun id job next status => (fate id).final, soFar.rejects,
    soFar.recordings, fun id next status saved spent => ?_⟩
  rcases (fate id).written saved spent with old | works | refuses
  · exact .inl old
  · refine .inr (.inl ⟨works, ?_⟩)
    rw [takeAll_append, before_eq, ← (ends _).1]
    exact works.not_refused soFar last
  · refine .inr (.inr ⟨refuses, ?_⟩)
    rw [takeAll_append, before_eq, ← (ends _).2]
    exact refuses.not_admitted last

def idleWorker : List Event := [.start, .work false ⟨0, 0⟩, .work false ⟨0, 0⟩, .work false ⟨0, 0⟩]

def rivals : List Turn :=
  let step (index : Nat) : Turn := .submission index ⟨.ofNat 128 index⟩ ⟨0, 0⟩
  [.arrive .all, .arrive .all, step 0, step 1, step 0, step 0, step 1, step 1]

def rivalSaves : Turn := .submission 1 ⟨1⟩ ⟨0, 0⟩

def idleService : Traffic History Scripted := opened 60 (.withCapacity 1) {} idleWorker

theorem sound_of_rivals :
    ((∀ event ∈ idleWorker, event.byCaller = false) ∧
      idleService.processor.worker.started = true ∧
      (∀ other ∈ rivals ++ [rivalSaves], other.orderly = true) ∧
      (((History.withCapacity 1).jobs.map Job.id) ++
        (idleService.drawn (rivals ++ [rivalSaves])).map some).Nodup) ∧
      Sound (idleService.takeAll rivals).1 rivalSaves
        (idleService.takeAll (rivals ++ [rivalSaves])).2 := by
  have premises : (∀ event ∈ idleWorker, event.byCaller = false) ∧
      idleService.processor.worker.started = true ∧
      (∀ other ∈ rivals ++ [rivalSaves], other.orderly = true) ∧
      (((History.withCapacity 1).jobs.map Job.id) ++
        (idleService.drawn (rivals ++ [rivalSaves])).map some).Nodup := by
    decide +kernel
  obtain ⟨apart, started, orderly, fresh⟩ := premises
  have sound := sound_of_interleaving 60 (.withCapacity 1) ({} : Scripted) idleWorker rivals []
    rivalSaves apart started orderly fresh
  exact ⟨⟨apart, started, orderly, fresh⟩, sound⟩

end Traffic

end TicketReports
