import TicketReports.Proofs.JobStore.Steady
import TicketReports.Proofs.Processor.Admission

set_option autoImplicit false

namespace TicketReports

namespace Job

theorem apply_start {job : Job} (running : job.isRunning = true) (phase : Phase) (now : Timestamp) :
    job.apply now (.start phase) =
      .ok { job with progress := job.progress.set phase { started := some now } } := by
  have open' : job.outcome = none := by simpa [isRunning] using running
  simp [apply, startPhase, ensureRunning, open', bind, Except.bind]

theorem apply_finishPhase {job : Job} (running : job.isRunning = true) {phase : Phase}
    {since : Timestamp} (started : (job.progress.get phase).started = some since)
    (now : Timestamp) :
    job.apply now (.finishPhase phase) =
      .ok { job with
        progress := job.progress.set phase
          { job.progress.get phase with finished := some now } } := by
  have open' : job.outcome = none := by simpa [isRunning] using running
  simp [apply, finishPhase, ensureRunning, open', started, bind, Except.bind]

theorem finish_running {job : Job} (running : job.isRunning = true) (status : FinalStatus) :
    job.finish status = .ok { job with outcome := some status } := by
  have open' : job.outcome = none := by simpa [isRunning] using running
  simp [finish, ensureRunning, open', bind, Except.bind]

theorem merge_apply {job next : Job} {now : Timestamp} {change : Change}
    (applied : job.apply now change = .ok next) : History.merge job next = next := by
  cases result : job.ensureRunning with
  | error error =>
    cases change <;>
      simp [apply, startPhase, finishPhase, finish, result, bind, Except.bind] at applied
  | ok _ =>
    cases change with
    | start phase =>
      simp only [apply, startPhase, result, bind, Except.bind] at applied
      cases applied
      rfl
    | close status =>
      simp only [apply, finish, result, bind, Except.bind] at applied
      cases applied
      rfl
    | finishPhase phase =>
      simp only [apply, finishPhase, result, bind, Except.bind] at applied
      split at applied
      next => cases applied
      next => cases applied; rfl

/-- What may become of a stored job that its owner writes to. -/
def Written (before after : Option Job) : Prop :=
  after = before ∨ ∃ job next, before = some job ∧ job.isRunning = true ∧ after = some next ∧
    next.kind = job.kind

end Job

namespace Action

/-- The job takes every change that is recorded by the actions, and is running after each. -/
def Fits : Job → List Action → Prop
  | _, [] => True
  | job, .perform _ :: rest => Fits job rest
  | job, .resume _ :: rest => Fits job rest
  | job, .record change :: rest =>
    ∀ now, ∃ next, job.apply now change = .ok next ∧ next.isRunning = true ∧ Fits next rest
  | job, .save next :: rest =>
    History.merge job next = next ∧ next.isRunning = true ∧ Fits next rest

theorem fits_performs (job : Job) (steps : List Step) (rest : List Action) :
    Fits job (steps.map .perform ++ rest) ↔ Fits job rest := by
  induction steps with
  | nil => rfl
  | cons step steps ih => exact ih

theorem fits_tail {job : Job} {action : Action} {step : Step} {rest : List Action}
    (asks : action.asks? = some step) (fits : Fits job (action :: rest)) : Fits job rest := by
  cases action with
  | perform _ => exact fits
  | resume _ => exact fits
  | record _ => cases asks
  | save _ => cases asks

theorem fits_phase (kind : JobKind) (phase : Phase) {job : Job} (running : job.isRunning = true)
    {rest : List Action} (later : ∀ next : Job, next.isRunning = true → Fits next rest) :
    Fits job (ofPhase kind phase ++ rest) := by
  have unfolded : ofPhase kind phase ++ rest = .record (.start phase) ::
      ((kind.stepsOf phase).map .perform ++ .record (.finishPhase phase) :: rest) := by
    simp [ofPhase]
  rw [unfolded]
  intro started
  let begun : Job := { job with progress := job.progress.set phase { started := some started } }
  have going : begun.isRunning = true := running
  refine ⟨begun, Job.apply_start running phase started, going, ?_⟩
  rw [fits_performs]
  -- The start was stamped just now, so the finish of the phase is taken too.
  intro finished
  have stamped : (begun.progress.get phase).started = some started := by simp [begun]
  exact ⟨_, Job.apply_finishPhase going stamped finished, running, later _ running⟩

theorem fits_phases (kind : JobKind) (phases : List Phase) :
    ∀ job : Job, job.isRunning = true → Fits job (phases.flatMap (ofPhase kind)) := by
  induction phases with
  | nil => exact fun _ _ => trivial
  | cons phase phases ih =>
    intro job running
    rw [List.flatMap_cons]
    exact fits_phase kind phase running ih

theorem fits_plan (kind : JobKind) {job : Job} (running : job.isRunning = true) :
    Fits job (plan kind) :=
  fits_phases kind Phase.all job running

end Action

namespace Run

/-- What a run has still to record on the stored job, and the outcome if it is known. -/
inductive Owes (stored : Option Job) (run : Run) : Option FinalStatus → Prop
  | work (job : Job) (held : stored = some job) (running : job.isRunning = true)
      (working : run.closing = false) (fits : Action.Fits job run.todo) : Owes stored run none
  | verdict (job : Job) (status : FinalStatus) (held : stored = some job)
      (running : job.isRunning = true) (closing : run.closing = true)
      (todo : run.todo = [.record (.close status)]) : Owes stored run (some status)
  | saving (job : Job) (status : FinalStatus) (held : stored = some job)
      (running : job.isRunning = true) (closing : run.closing = true)
      (todo : run.todo = [.save { job with outcome := some status }]) :
      Owes stored run (some status)
  | told (status : FinalStatus) (closing : run.closing = true) (todo : run.todo = [])
      (said : ∀ job, stored = some job → job.outcome = some status) : Owes stored run (some status)

namespace Owes

variable {stored after : Option Job} {run : Run} {outcome : Option FinalStatus}

theorem begin {job : Job} (held : stored = some job) (running : job.isRunning = true) (id : JobId)
    (number left : Nat) (kind : JobKind) : (Run.begin id number left kind).Owes stored none :=
  .work job held running rfl (Action.fits_plan kind running)

theorem cancel (owes : run.Owes stored outcome) : run.cancel.Owes stored outcome := by
  cases owes with
  | work job held running working fits => exact .work job held running working fits
  | verdict job status held running closing todo =>
    exact .verdict job status held running closing todo
  | saving job status held running closing todo =>
    exact .saving job status held running closing todo
  | told status closing todo said => exact .told status closing todo said

theorem kept (owes : run.Owes stored outcome) (kept : Job.Kept stored after) :
    run.Owes after outcome := by
  cases owes with
  | work job held running working fits =>
    exact .work job (kept.running held running) running working fits
  | verdict job status held running closing todo =>
    exact .verdict job status (kept.running held running) running closing todo
  | saving job status held running closing todo =>
    exact .saving job status (kept.running held running) running closing todo
  | told status closing todo said =>
    exact .told status closing todo fun job still => said job (kept.eq still)

theorem accepted (owes : run.Owes stored outcome) {change : Job.Change} {rest : List Action}
    (todo : run.todo = .record change :: rest) :
    ∃ job, stored = some job ∧ job.isRunning = true ∧
      ∀ now, ∃ next, job.apply now change = .ok next := by
  cases owes with
  | work job held running working fits =>
    rw [todo] at fits
    refine ⟨job, held, running, fun now => ?_⟩
    obtain ⟨next, applied, _⟩ := fits now
    exact ⟨next, applied⟩
  | verdict job status held running closing only =>
    cases todo.symm.trans only
    exact ⟨job, held, running, fun now => ⟨_, Job.finish_running running status⟩⟩
  | saving job status held running closing only => cases todo.symm.trans only
  | told status closing none said => cases todo.symm.trans none

theorem saves (owes : run.Owes stored outcome) {next : Job} {rest : List Action}
    (todo : run.todo = .save next :: rest) :
    ∃ job, stored = some job ∧ job.isRunning = true ∧ History.merge job next = next := by
  cases owes with
  | work job held running working fits =>
    rw [todo] at fits
    exact ⟨job, held, running, fits.1⟩
  | verdict job status held running closing only => cases todo.symm.trans only
  | saving job status held running closing only =>
    cases todo.symm.trans only
    exact ⟨job, held, running, rfl⟩
  | told status closing none said => cases todo.symm.trans none

theorem asking (owes : run.Owes stored outcome) {action : Action} {step : Step}
    {rest : List Action} (todo : run.todo = action :: rest) (asks : action.asks? = some step) :
    outcome = none ∧ ∃ job, stored = some job ∧ job.isRunning = true ∧ run.closing = false ∧
      Action.Fits job rest := by
  cases owes with
  | work job held running working fits =>
    exact ⟨rfl, job, held, running, working, Action.fits_tail asks (todo ▸ fits)⟩
  | verdict job status held running closing only =>
    cases todo.symm.trans only
    cases asks
  | saving job status held running closing only =>
    cases todo.symm.trans only
    cases asks
  | told status closing none said => cases todo.symm.trans none

theorem goesOn (owes : run.Owes stored outcome) {action : Action} {step : Step}
    {rest : List Action} (todo : run.todo = action :: rest) (asks : action.asks? = some step)
    (left : Nat) : Run.Owes stored { run with left, todo := rest } outcome := by
  obtain ⟨rfl, job, held, running, working, fits⟩ := owes.asking todo asks
  exact .work job held running working fits

theorem waits (owes : run.Owes stored outcome) {action : Action} {step : Step}
    {rest : List Action} (todo : run.todo = action :: rest) (asks : action.asks? = some step)
    (left : Nat) : Run.Owes stored { run with left, todo := .resume step :: rest } outcome := by
  obtain ⟨rfl, job, held, running, working, fits⟩ := owes.asking todo asks
  exact .work job held running working fits

theorem settles (owes : run.Owes stored outcome) (working : run.closing = false) (left : Nat)
    (status : FinalStatus) :
    outcome = none ∧ ({ run with left }.close status).Owes stored (some status) := by
  cases owes with
  | work job held running _ fits => exact ⟨rfl, .verdict job status held running rfl rfl⟩
  | verdict job status held running closing todo => cases working.symm.trans closing
  | saving job status held running closing todo => cases working.symm.trans closing
  | told status closing todo said => cases working.symm.trans closing

theorem changes (owes : run.Owes stored outcome) {change : Job.Change} {rest : List Action}
    (todo : run.todo = .record change :: rest) {job next : Job} (held : stored = some job)
    {now : Timestamp} (applied : job.apply now change = .ok next) :
    Run.Owes stored { run with todo := .save next :: rest } outcome := by
  cases owes with
  | work found has running working fits =>
    cases held.symm.trans has
    rw [todo] at fits
    obtain ⟨accepted, same, going, later⟩ := fits now
    cases applied.symm.trans same
    exact .work job held running working ⟨Job.merge_apply applied, going, later⟩
  | verdict found status has running closing only =>
    cases held.symm.trans has
    cases todo.symm.trans only
    cases applied.symm.trans (Job.finish_running running status)
    exact .saving job status held running closing rfl
  | saving found status has running closing only => cases todo.symm.trans only
  | told status closing none said => cases todo.symm.trans none

theorem saved (owes : run.Owes stored outcome) {next : Job} {rest : List Action}
    (todo : run.todo = .save next :: rest) :
    Run.Owes (stored.map fun job => History.merge job next) { run with todo := rest } outcome := by
  cases owes with
  | work job held running working fits =>
    rw [todo] at fits
    obtain ⟨same, going, later⟩ := fits
    exact .work next (by rw [held, Option.map_some, same]) going working later
  | verdict job status held running closing only => cases todo.symm.trans only
  | saving job status held running closing only =>
    cases todo.symm.trans only
    refine .told status closing rfl fun after is => ?_
    rw [held, Option.map_some, Option.some.injEq] at is
    exact is ▸ rfl
  | told status closing none said => cases todo.symm.trans none

theorem closing_of_known {status : FinalStatus} (owes : run.Owes stored (some status)) :
    run.closing = true := by
  cases owes with
  | verdict _ _ _ _ closing _ => exact closing
  | saving _ _ _ _ closing _ => exact closing
  | told _ closing _ _ => exact closing

theorem known (owes : run.Owes stored outcome) (closing : run.closing = true) :
    ∃ status, outcome = some status := by
  cases owes with
  | work _ _ _ working _ => cases closing.symm.trans working
  | verdict _ status _ _ _ _ => exact ⟨status, rfl⟩
  | saving _ status _ _ _ _ => exact ⟨status, rfl⟩
  | told status _ _ _ => exact ⟨status, rfl⟩

theorem retires (owes : run.Owes stored outcome) (spent : run.todo = [])
    (closing : run.closing = true) :
    ∃ status, outcome = some status ∧ ∀ job, stored = some job → job.outcome = some status := by
  cases owes with
  | work job held running working fits => cases closing.symm.trans working
  | verdict job status held running _ todo => cases spent.symm.trans todo
  | saving job status held running _ todo => cases spent.symm.trans todo
  | told status _ _ said => exact ⟨status, rfl, said⟩

end Owes

end Run

namespace Processor

variable {σ W : Type} [JobStore σ] [Steady σ]

open Steady

/-- What a step of a run does: it writes to its job and to no other, and an outcome once known stays
until the job is told. -/
structure Recorded (p q : Processor σ W) (run : Run) (outcome : Option FinalStatus) : Prop where
  others : ∀ other, other ≠ run.id → peek other q.store = peek other p.store
  own : Job.Written (peek run.id p.store) (peek run.id q.store)
  mailbox : q.mailbox = p.mailbox
  calls : outcome = none ∨ q.world = p.world
  goesOn :
    (q.worker = .finished run.id ∧ ∃ status, outcome = some status ∧
      ∀ job, peek run.id q.store = some job → job.outcome = some status) ∨
    ∃ next known, q.worker = .running next ∧ next.id = run.id ∧
      next.Owes (peek run.id q.store) known ∧ (outcome = none ∨ known = outcome)

theorem recorded [Stages W] {p q : Processor σ W} {run : Run} {now : Timestamp} {notes : List Note}
    {outcome : Option FinalStatus} (owes : run.Owes (peek run.id p.store) outcome)
    (advance : Advance p run now q notes) : Recorded p q run outcome := by
  -- Loading a job changes nothing, so that only saving one is a write.
  have loads : ∀ {store : σ} {answer : Except StoreError Job},
      JobStore.get run.id p.store = (answer, store) → ∀ id, peek id store = peek id p.store := by
    intro store answer got id
    have same := peek_get run.id id p.store
    rwa [got] at same
  cases advance with
  | retire spent closing =>
    exact ⟨fun _ _ => rfl, .inl rfl, rfl, .inr rfl, .inl ⟨rfl, owes.retires spent closing⟩⟩
  | succeed spent working =>
    obtain ⟨none, closes⟩ := owes.settles working run.left .success
    exact ⟨fun _ _ => rfl, .inl rfl, rfl, .inl none, .inr ⟨_, _, rfl, rfl, closes, .inl none⟩⟩
  | done action step rest left world todo asks answer =>
    exact ⟨fun _ _ => rfl, .inl rfl, rfl, .inl (owes.asking todo asks).1,
      .inr ⟨_, _, rfl, rfl, owes.goesOn todo asks left, .inr rfl⟩⟩
  | wait action step rest left world todo asks answer =>
    exact ⟨fun _ _ => rfl, .inl rfl, rfl, .inl (owes.asking todo asks).1,
      .inr ⟨_, _, rfl, rfl, owes.waits todo asks left, .inr rfl⟩⟩
  | fail action step rest left world error todo asks answer =>
    obtain ⟨none, _, _, _, working, _⟩ := owes.asking todo asks
    exact ⟨fun _ _ => rfl, .inl rfl, rfl, .inl none,
      .inr ⟨_, _, rfl, rfl, (owes.settles working left _).2, .inl none⟩⟩
  | panic action step rest left world detail todo asks answer =>
    obtain ⟨none, _, _, _, working, _⟩ := owes.asking todo asks
    exact ⟨fun _ _ => rfl, .inl rfl, rfl, .inl none,
      .inr ⟨_, _, rfl, rfl, (owes.settles working left _).2, .inl none⟩⟩
  | missing change rest error store todo answer =>
    obtain ⟨job, held, -, -⟩ := owes.accepted todo
    have found := get_found held
    rw [answer] at found
    cases found
  | declined change rest job error store todo answer applied =>
    obtain ⟨stored, held, -, accepts⟩ := owes.accepted todo
    have found := get_found held
    rw [answer] at found
    cases found
    obtain ⟨next, taken⟩ := accepts now
    cases applied.symm.trans taken
  | changed change rest job next store todo answer applied =>
    obtain ⟨stored, held, -, -⟩ := owes.accepted todo
    have found := get_found held
    rw [answer] at found
    cases found
    refine ⟨fun other _ => loads answer other, .inl (loads answer run.id), rfl, .inr rfl, .inr ?_⟩
    refine ⟨_, outcome, rfl, rfl, ?_, .inr rfl⟩
    rw [loads answer run.id]
    exact owes.changes todo held applied
  | saved job rest todo =>
    obtain ⟨stored, held, running, same⟩ := owes.saves todo
    have holds : job.id = some run.id := by
      rw [← same, History.merge_id]
      exact peek_id held
    refine ⟨fun other different => peek_update_of_ne holds different, .inr ?_, rfl, .inr rfl,
      .inr ?_⟩
    · refine ⟨stored, job, held, running, ?_, same ▸ rfl⟩
      rw [peek_update holds, held, Option.map_some, same]
    · refine ⟨_, outcome, rfl, rfl, ?_, .inr rfl⟩
      rw [peek_update holds]
      exact owes.saved todo

structure Serves (p : Processor σ W) : Prop where
  waiting : ∀ id ∈ p.pending, ∃ job, peek id p.store = some job ∧ job.isRunning = true
  owing : ∀ run, p.worker = .running run → ∃ outcome, run.Owes (peek run.id p.store) outcome

namespace Serves

variable {p q : Processor σ W} {notes : List Note}

theorem idle (serves : p.Serves) (same : ∀ id, peek id q.store = peek id p.store)
    (pending : ∀ id ∈ q.pending, id ∈ p.pending) (still : ∀ run, q.worker ≠ .running run) :
    q.Serves where
  waiting id waits := by
    rw [same]
    exact serves.waiting id (pending id waits)
  owing run running := absurd running (still run)

theorem kept (serves : p.Serves) (store : σ)
    (kept : ∀ id ∈ p.occupants, Job.Kept (peek id p.store) (peek id store)) :
    Serves { p with store } where
  waiting id waits := by
    obtain ⟨job, held, running⟩ := serves.waiting id waits
    exact ⟨job, (kept id (pending_occupants waits)).running held running, running⟩
  owing run running := by
    have held : p.worker = .running run := running
    obtain ⟨outcome, owes⟩ := serves.owing run held
    refine ⟨outcome, owes.kept (kept run.id ?_)⟩
    simp [occupants, held, Worker.held?]

theorem lookUp (serves : p.Serves) {id : JobId} (looking : p.worker = .looking id) :
    (p.lookUp id).1.Serves := by
  have same : ∀ other, peek other (JobStore.get id p.store).2 = peek other p.store :=
    fun other => peek_get id other p.store
  constructor
  · intro other waits
    have queued : other ∈ p.pending := List.mem_append_right _ waits
    obtain ⟨job, held, running⟩ := serves.waiting other queued
    exact ⟨job, (same other).trans held, running⟩
  · intro run running
    cases running
    obtain ⟨job, held, running⟩ := serves.waiting id (by simp [pending, looking, Worker.awaited?])
    exact ⟨none, Run.Owes.begin ((same id).trans held) running _ _ _ _⟩

theorem setReady (serves : p.Serves) (ready : Bool) {worker : Worker}
    (awaits : worker.awaited? = none) (still : ∀ run, worker ≠ .running run) :
    (p.setReady ready worker).Serves := by
  unfold Processor.setReady
  split
  · refine serves.idle (fun _ => rfl) (fun id waits => ?_) still
    rw [pending, awaits] at waits
    exact List.mem_append_right _ waits
  · exact serves

theorem listen (serves : p.Serves) (listening : p.worker = .listening) (away : Bool) :
    (p.listen away).Serves := by
  unfold Processor.listen
  split
  · refine serves.idle (fun _ => rfl) (fun id waits => ?_) (fun _ running => by cases running)
    exact List.mem_append_right _ waits
  · split
    next id sent =>
      refine serves.idle (fun _ => rfl) (fun other waits => ?_) (fun _ running => by cases running)
      simpa [pending, sent, listening, Worker.awaited?] using waits
    next => exact serves

theorem advance [Stages W] (serves : p.Serves) (admission : Admission p notes) {run : Run}
    (running : p.worker = .running run) (now : Timestamp) : (p.advance run now).1.Serves := by
  obtain ⟨outcome, owes⟩ := serves.owing run running
  have recorded := recorded owes (p.advance_spec run now)
  have empty := admission.empty (by rw [running]; rfl)
  generalize (p.advance run now).1 = q at recorded
  have mailbox : q.mailbox = none := recorded.mailbox.trans empty
  rcases recorded.goesOn with ⟨finished, _⟩ | ⟨next, outcome, goesOn, same, owes, _⟩
  · constructor
    · simp [pending, finished, mailbox, Worker.awaited?]
    · intro other runs
      cases finished.symm.trans runs
  · constructor
    · simp [pending, goesOn, mailbox, Worker.awaited?]
    · intro other runs
      cases goesOn.symm.trans runs
      exact ⟨outcome, same ▸ owes⟩

theorem unstarted (admission : Admission p notes) (unstarted : p.worker.started = false)
    {worker : Worker} {store : σ} (awaits : worker.awaited? = none)
    (still : ∀ run, worker ≠ .running run) : Serves { p with store, worker } where
  waiting id waits := by
    have empty := (admission.unopened unstarted).2
    simp [pending, awaits, empty] at waits
  owing run running := absurd running (still run)

theorem work [Stages W] (serves : p.Serves) (admission : Admission p notes) (away : Bool)
    (now : Timestamp) : (p.work away now).1.Serves := by
  unfold Processor.work
  split
  next => exact serves
  next surveying =>
    have idle : p.worker.started = false := by rw [surveying]; rfl
    unfold survey
    split <;> exact unstarted admission idle rfl (fun _ running => by cases running)
  next stranded reclaiming =>
    have idle : p.worker.started = false := by rw [reclaiming]; rfl
    unfold reclaim
    split
    next => exact unstarted admission idle rfl (fun _ running => by cases running)
    next => split <;> exact unstarted admission idle rfl (fun _ running => by cases running)
  next => exact serves.setReady true rfl (fun _ running => by cases running)
  next listening => exact serves.listen listening away
  next id looking => exact serves.lookUp looking
  next run running => exact serves.advance admission running now
  next id finished =>
    refine serves.idle (fun _ => rfl) (fun other waits => ?_) ?_
    · refine List.mem_append_right _ ?_
      dsimp only [pending] at waits
      split at waits <;> simpa [Worker.awaited?] using waits
    · intro run running
      dsimp only at running
      split at running <;> cases running
  next => exact serves.setReady true rfl (fun _ running => by cases running)
  next => exact serves.setReady false rfl (fun _ running => by cases running)
  next => exact serves

theorem enter (serves : p.Serves) {id : JobId} {job : Job} (held : peek id p.store = some job)
    (running : job.isRunning = true) : (p.enter id).1.Serves := by
  unfold Processor.enter
  split
  · exact serves
  · split
    · constructor
      · intro other waits
        rcases List.mem_append.mp waits with awaited | sent
        · exact serves.waiting other (List.mem_append_left _ awaited)
        · obtain rfl : other = id := by simpa using sent
          exact ⟨job, held, running⟩
      · exact serves.owing
    · exact serves

theorem leave (serves : p.Serves) : p.leave.1.Serves := by
  unfold Processor.leave
  split
  · exact serves
  · exact ⟨serves.waiting, serves.owing⟩

theorem cancel (serves : p.Serves) {run : Run} (running : p.worker = .running run)
    (stopping : Bool) : Serves { p with stopping, worker := .running run.cancel } where
  waiting id waits := serves.waiting id (List.mem_append_right _ waits)
  owing other runs := by
    cases runs
    obtain ⟨outcome, owes⟩ := serves.owing run running
    exact ⟨outcome, owes.cancel⟩

theorem step [Stages W] (serves : p.Serves) (admission : Admission p notes) (event : Event)
    (apart : event.byCaller = false) : (p.step event).1.Serves := by
  cases event with
  | enter id => cases apart
  | leave => cases apart
  | work away now => exact serves.work admission away now
  | start =>
    rw [Processor.step, start]
    split
    next absent =>
      refine serves.idle (fun _ => rfl) (fun id waits => ?_) (fun _ running => by cases running)
      simpa [pending, absent, Worker.awaited?] using waits
    next => exact serves
  | expire =>
    rw [Processor.step, expire]
    split
    next run running => exact serves.cancel running p.stopping
    next => exact serves
  | shutdown =>
    rw [Processor.step, shutdown]
    split
    next => exact serves
    next run running => exact serves.cancel running true
    next => exact ⟨serves.waiting, serves.owing⟩
  | close =>
    rw [Processor.step, close]
    split
    · exact ⟨serves.waiting, serves.owing⟩
    · exact serves

theorem step_writes [Stages W] (serves : p.Serves) (started : p.worker.started = true)
    (event : Event) (id : JobId) :
    peek id (p.step event).1.store = peek id p.store ∨
      ∃ away now run, event = .work away now ∧ p.worker = .running run ∧ run.id = id ∧
        ∃ job next, peek id p.store = some job ∧ job.isRunning = true ∧
          peek id (p.step event).1.store = some next ∧ next.kind = job.kind := by
  by_cases works : ∃ away now, event = .work away now
  · obtain ⟨away, now, rfl⟩ := works
    rw [Processor.step]
    cases worker : p.worker with
    | running run =>
      obtain ⟨outcome, owes⟩ := serves.owing run worker
      have recorded := recorded owes (p.advance_spec run now)
      have works : p.work away now = p.advance run now := by rw [Processor.work, worker]
      rw [works]
      by_cases same : id = run.id
      · subst same
        exact recorded.own.imp id fun written => ⟨away, now, run, rfl, rfl, rfl, written⟩
      · exact .inl (recorded.others id same)
    | looking sought =>
      refine .inl ?_
      rw [Processor.work, worker]
      exact peek_get sought id p.store
    | listening =>
      refine .inl (congrArg (peek id) ?_)
      rw [Processor.work, worker]
      dsimp only [Processor.listen]
      repeat' split
      all_goals rfl
    | reopening _ =>
      refine .inl (congrArg (peek id) ?_)
      rw [Processor.work, worker]
      dsimp only [Processor.setReady]
      split <;> rfl
    | leaving =>
      refine .inl (congrArg (peek id) ?_)
      rw [Processor.work, worker]
      dsimp only [Processor.setReady]
      split <;> rfl
    | finished _ => exact .inl (by rw [Processor.work, worker])
    | stopped => exact .inl (by rw [Processor.work, worker])
    | absent => simp [worker, Worker.started] at started
    | surveying => simp [worker, Worker.started] at started
    | reclaiming _ => simp [worker, Worker.started] at started
    | opening => simp [worker, Worker.started] at started
  · refine .inl (congrArg (peek id) (p.step_store fun away now same => ?_))
    exact works ⟨away, now, same⟩

end Serves

end Processor

end TicketReports
