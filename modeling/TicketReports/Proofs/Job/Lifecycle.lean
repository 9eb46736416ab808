import TicketReports.Job.Edit
import TicketReports.Proofs.Job.Stamps

set_option autoImplicit false

namespace TicketReports

namespace Job

def Refuses (job : Job) : Call → Prop
  | .assign _ => job.id.isSome = true
  | .change (.finishPhase phase) =>
    job.outcome.isSome = true ∨ (job.progress.get phase).started = none
  | .change _ => job.outcome.isSome = true

def followed (job : Job) (now : Timestamp) : Call → Job
  | .assign id => { job with id := some id }
  | .change (.start phase) =>
    { job with progress := job.progress.set phase { started := some now } }
  | .change (.finishPhase phase) =>
    { job with
      progress := job.progress.set phase { job.progress.get phase with finished := some now } }
  | .change (.close status) => { job with outcome := some status }

section Calls

variable {job : Job} {now : Timestamp}

theorem ensureRunning_eq_ok : job.ensureRunning = .ok () ↔ job.outcome = none := by
  cases ended : job.outcome <;> simp [ensureRunning, ended]

-- The operations on a job that is kept check by a bind in `Except`, which simp leaves alone.

theorem bind_ok {ε α β : Type} (value : α) (next : α → Except ε β) :
    Except.ok value >>= next = next value := rfl

theorem bind_error {ε α β : Type} (error : ε) (next : α → Except ε β) :
    Except.error error >>= next = .error error := rfl

theorem apply_stopped {error : DomainError} (stopped : job.ensureRunning = .error error)
    (change : Change) : job.apply now change = .error error := by
  cases change <;> simp [apply, startPhase, finishPhase, finish, stopped, bind_error]

theorem run_stopped {error : DomainError} (stopped : job.ensureRunning = .error error)
    (change : Change) : (Call.change change).run now job = .error error job := by
  cases change <;>
    simp [Call.run, Call.edit, Edit.startPhase, Edit.finishPhase, Edit.finish, stopped, ofExcept]

inductive Served (job : Job) (now : Timestamp) (call : Call) :
    Except DomainError Job → EStateM.Result DomainError Job Unit → Prop
  | followed (allowed : ¬job.Refuses call) :
      Served job now call (.ok (job.followed now call)) (.ok () (job.followed now call))
  | refused (error : DomainError) (refuses : job.Refuses call) :
      Served job now call (.error error) (.error error job)

theorem served_assign (id : JobId) :
    Served job now (.assign id) (job.assignId id) ((Call.assign id).run now job) := by
  cases named : job.id with
  | none =>
    have allowed : ¬job.Refuses (.assign id) := by simp [Refuses, named]
    simpa [Call.run, Call.edit, Edit.assignId, assignId, named, followed] using
      (.followed allowed : Served job now _ _ _)
  | some other =>
    have refuses : job.Refuses (.assign id) := by simp [Refuses, named]
    simpa [Call.run, Call.edit, Edit.assignId, assignId, named] using
      (.refused _ refuses : Served job now _ _ _)

theorem served_change (change : Change) :
    Served job now (.change change) (job.apply now change) ((Call.change change).run now job) := by
  cases check : job.ensureRunning with
  | error error =>
    have ended : job.outcome ≠ none := by
      intro running
      rw [ensureRunning_eq_ok.mpr running] at check
      cases check
    have refuses : job.Refuses (.change change) := by
      cases change <;> simp [Refuses, Option.isSome_iff_ne_none, ended]
    rw [apply_stopped check, run_stopped check]
    exact .refused error refuses
  | ok _ =>
    have running := ensureRunning_eq_ok.mp check
    cases change with
    | start phase =>
      have allowed : ¬job.Refuses (.change (.start phase)) := by simp [Refuses, running]
      simpa [apply, startPhase, Call.run, Call.edit, Edit.startPhase, check, ofExcept, followed,
        bind_ok] using (.followed allowed : Served job now _ _ _)
    | finishPhase phase =>
      cases begun : (job.progress.get phase).started with
      | none =>
        have refuses : job.Refuses (.change (.finishPhase phase)) := .inr begun
        simpa [apply, finishPhase, Call.run, Call.edit, Edit.finishPhase, check, begun, ofExcept,
          bind_ok] using (.refused _ refuses : Served job now _ _ _)
      | some since =>
        have allowed : ¬job.Refuses (.change (.finishPhase phase)) := by
          simp [Refuses, running, begun]
        simpa [apply, finishPhase, Call.run, Call.edit, Edit.finishPhase, check, begun, ofExcept,
          followed, bind_ok] using (.followed allowed : Served job now _ _ _)
    | close status =>
      have allowed : ¬job.Refuses (.change (.close status)) := by simp [Refuses, running]
      simpa [apply, finish, Call.run, Call.edit, Edit.finish, check, ofExcept, followed,
        bind_ok] using (.followed allowed : Served job now _ _ _)

theorem served (call : Call) : Served job now call (call.apply now job) (call.run now job) := by
  cases call with
  | assign id => exact served_assign id
  | change asked => exact served_change asked

theorem after_run (now : Timestamp) (call : Call) (job : Job) :
    job.Refuses call ∧ Call.after (call.run now job) = job ∨
      ¬job.Refuses call ∧ Call.after (call.run now job) = job.followed now call := by
  have spec : Served job now call _ _ := served call
  generalize call.run now job = result at spec ⊢
  generalize call.apply now job = kept at spec
  cases spec with
  | followed allowed => exact .inr ⟨allowed, rfl⟩
  | refused error refuses => exact .inl ⟨refuses, rfl⟩

namespace Call

def assigned? : Call → Option JobId
  | .assign id => some id
  | .change _ => none

def closing? : Call → Option FinalStatus
  | .change (.close status) => some status
  | _ => none

end Call

theorem after_id (call : Call) :
    (Call.after (call.run now job)).id = job.id.or call.assigned? := by
  rcases after_run now call job with ⟨refuses, same⟩ | ⟨allowed, next⟩
  next =>
    rw [same]
    cases call with
    | assign id =>
      obtain ⟨own, named⟩ := Option.isSome_iff_exists.mp refuses
      simp [named]
    | change asked => simp [Call.assigned?]
  next =>
    rw [next]
    cases call with
    | assign id =>
      have unnamed : job.id = none := by simpa [Refuses] using allowed
      simp [unnamed, followed, Call.assigned?]
    | change asked => cases asked <;> simp [Call.assigned?, followed]

theorem after_outcome (call : Call) :
    (Call.after (call.run now job)).outcome = job.outcome.or call.closing? := by
  rcases after_run now call job with ⟨refuses, same⟩ | ⟨allowed, next⟩
  next =>
    rw [same]
    cases call with
    | assign id => simp [Call.closing?]
    | change asked =>
      cases asked with
      | close status =>
        obtain ⟨own, ended⟩ := Option.isSome_iff_exists.mp refuses
        simp [ended]
      | _ => simp [Call.closing?]
  next =>
    rw [next]
    cases call with
    | assign id => simp [Call.closing?, followed]
    | change asked =>
      cases asked with
      | close status =>
        have running : job.outcome = none := by simpa [Refuses] using allowed
        simp [running, followed, Call.closing?]
      | _ => simp [Call.closing?, followed]

theorem after_origin (call : Call) :
    (Call.after (call.run now job)).kind = job.kind ∧
      (Call.after (call.run now job)).createdAt = job.createdAt := by
  rcases after_run now call job with ⟨-, same⟩ | ⟨-, next⟩
  next => simp [same]
  next =>
    rw [next]
    cases call with
    | assign id => simp [followed]
    | change asked => cases asked <;> simp [followed]

theorem after_ended (ended : job.outcome.isSome = true) (call : Call) :
    (Call.after (call.run now job)).progress = job.progress := by
  rcases after_run now call job with ⟨-, same⟩ | ⟨allowed, next⟩
  next => rw [same]
  next =>
    rw [next]
    cases call with
    | assign id => rfl
    | change asked => cases asked <;> simp [Refuses, ended] at allowed

end Calls

end Job

/-- A finish comes with a start that is no later, and no start lies ahead. -/
structure Stamps.Timely (now : Timestamp) (stamps : Stamps) : Prop where
  past : ∀ start, stamps.started = some start → start ≤ now
  orderly : ∀ finish, stamps.finished = some finish →
    ∃ start, stamps.started = some start ∧ start ≤ finish

namespace Progress

def Timely (now : Timestamp) (progress : Progress) : Prop :=
  ∀ phase, (progress.get phase).Timely now

variable {before now : Timestamp} {progress : Progress}

theorem timely_blank (now : Timestamp) : Timely now {} := fun phase => by
  cases phase <;> exact ⟨nofun, nofun⟩

theorem Timely.later (timely : Timely before progress) (passed : before ≤ now) :
    Timely now progress := fun phase =>
  ⟨fun start started => Timestamp.le_trans ((timely phase).past start started) passed,
    (timely phase).orderly⟩

theorem Timely.set (timely : Timely now progress) (phase : Phase) {stamps : Stamps}
    (own : stamps.Timely now) : Timely now (progress.set phase stamps) := by
  intro other
  rw [get_set]
  split
  next => exact own
  next => exact timely other

end Progress

namespace Job

theorem after_timely {job : Job} {before now : Timestamp} (timely : job.progress.Timely before)
    (passed : before ≤ now) (call : Call) :
    (Call.after (call.run now job)).progress.Timely now := by
  have kept := timely.later passed
  rcases after_run now call job with ⟨-, same⟩ | ⟨allowed, next⟩
  next => rwa [same]
  next =>
    rw [next]
    cases call with
    | assign id => exact kept
    | change asked =>
      cases asked with
      | close status => exact kept
      | start phase =>
        refine kept.set phase ⟨fun start started => ?_, nofun⟩
        cases started
        exact Timestamp.le_refl now
      | finishPhase phase =>
        obtain ⟨since, begun⟩ : ∃ since, (job.progress.get phase).started = some since := by
          rw [← Option.ne_none_iff_exists']
          exact fun unstarted => allowed (.inr unstarted)
        refine kept.set phase ⟨(kept phase).past, fun finish finished => ?_⟩
        cases finished
        exact ⟨since, begun, (kept phase).past since begun⟩

section Served

variable {job : Job} {before : Timestamp} {calls : List (Timestamp × Call)}

theorem serve_cons (now : Timestamp) (call : Call) :
    job.serve ((now, call) :: calls) = (Call.after (call.run now job)).serve calls := rfl

theorem serve_id :
    (job.serve calls).id = job.id.or (calls.findSome? fun call => call.2.assigned?) := by
  induction calls generalizing job with
  | nil => simp [serve]
  | cons call later ih =>
    rw [serve_cons, ih, after_id, List.findSome?_cons, Option.or_assoc]
    cases call.2.assigned? <;> simp

theorem serve_outcome :
    (job.serve calls).outcome = job.outcome.or (calls.findSome? fun call => call.2.closing?) := by
  induction calls generalizing job with
  | nil => simp [serve]
  | cons call later ih =>
    rw [serve_cons, ih, after_outcome, List.findSome?_cons, Option.or_assoc]
    cases call.2.closing? <;> simp

theorem serve_origin :
    (job.serve calls).kind = job.kind ∧ (job.serve calls).createdAt = job.createdAt := by
  induction calls generalizing job with
  | nil => exact ⟨rfl, rfl⟩
  | cons call later ih =>
    rw [serve_cons, ih.1, ih.2]
    exact after_origin call.2

theorem serve_ended (ended : job.outcome.isSome = true) :
    (job.serve calls).progress = job.progress := by
  induction calls generalizing job with
  | nil => rfl
  | cons call later ih =>
    have still : (Call.after (call.2.run call.1 job)).outcome.isSome = true := by
      simp [after_outcome, ended]
    rw [serve_cons, ih still, after_ended ended]

theorem serve_timely (timely : job.progress.Timely before)
    (clock : (before :: calls.map Prod.fst).IsChain (· ≤ ·)) :
    ∃ now, (job.serve calls).progress.Timely now := by
  induction calls generalizing job before with
  | nil => exact ⟨before, timely⟩
  | cons call later ih =>
    rw [List.map_cons, List.isChain_cons_cons] at clock
    exact ih (after_timely timely clock.1 call.2) clock.2

end Served

/-- Whatever is asked of a new job while time does not go back, its id and its final status are the
first ones it was given, and no call that is refused changes it. -/
theorem settles_once (kind : JobKind) (born : Timestamp) (calls : List (Timestamp × Call))
    (clock : (born :: calls.map Prod.fst).IsChain (· ≤ ·)) :
    let job := (new kind born).serve calls
    job.kind = kind ∧ job.createdAt = born ∧
      (job.id = calls.findSome? fun call => call.2.assigned?) ∧
      (job.outcome = calls.findSome? fun call => call.2.closing?) ∧
      (∀ phase finish, (job.progress.get phase).finished = some finish →
        ∃ start, (job.progress.get phase).started = some start ∧ start ≤ finish) ∧
      (∀ id later, job.id = some id → (job.serve later).id = some id) ∧
      (∀ status later, job.outcome = some status →
        (job.serve later).outcome = some status ∧ (job.serve later).progress = job.progress) ∧
      ∀ now call,
        (job.Refuses call ∧ ∃ error, call.apply now job = .error error ∧
          call.run now job = .error error job) ∨
        (¬job.Refuses call ∧ call.apply now job = .ok (job.followed now call) ∧
          call.run now job = .ok () (job.followed now call)) := by
  intro job
  have blank : (new kind born).progress.Timely born := Progress.timely_blank born
  obtain ⟨now, timely⟩ := serve_timely blank clock
  refine ⟨serve_origin.1, serve_origin.2, serve_id, serve_outcome,
    fun phase => (timely phase).orderly, ?_, ?_, ?_⟩
  · intro id later named
    rw [serve_id, named, Option.some_or]
  · intro status later ended
    rw [serve_outcome, ended, Option.some_or]
    exact ⟨rfl, serve_ended (by simp [ended])⟩
  · intro now call
    have spec : Served job now call _ _ := served call
    generalize call.run now job = result at spec ⊢
    generalize call.apply now job = kept at spec ⊢
    cases spec with
    | followed allowed => exact .inr ⟨allowed, rfl, rfl⟩
    | refused error refuses => exact .inl ⟨refuses, error, rfl, rfl⟩

def restless : List (Timestamp × Call) :=
  [(⟨5, 0⟩, .change (.start .usersDownload)), (⟨6, 0⟩, .change (.finishPhase .usersDownload)),
    (⟨6, 0⟩, .change (.start .usersDownload)), (⟨7, 0⟩, .assign ⟨1⟩), (⟨7, 0⟩, .assign ⟨2⟩),
    (⟨9, 0⟩, .change (.close .success)), (⟨9, 5⟩, .change (.finishPhase .usersDownload))]

theorem restless_job_settles :
    let job := (new .all ⟨4, 0⟩).serve restless
    ((⟨4, 0⟩ : Timestamp) :: restless.map Prod.fst).IsChain (· ≤ ·) ∧
      job.id = some ⟨1⟩ ∧ job.outcome = some .success ∧
      (job.progress.get .usersDownload) = { started := some ⟨6, 0⟩ } ∧
      ∀ later, (job.serve later).progress = job.progress := by
  intro job
  have clock : ((⟨4, 0⟩ : Timestamp) :: restless.map Prod.fst).IsChain (· ≤ ·) := by decide
  obtain ⟨-, -, named, ended, -, -, frozen, -⟩ := settles_once .all ⟨4, 0⟩ restless clock
  exact ⟨clock, named, ended, rfl, fun later => (frozen .success later ended).2⟩

end Job

end TicketReports
