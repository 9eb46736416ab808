import Mathlib.Data.List.Induction
import TicketReports.Pipeline.Scripted
import TicketReports.Proofs.JobStore.Eviction
import TicketReports.Proofs.JobStore.Kinds
import TicketReports.Proofs.Processor.Renewal

set_option autoImplicit false

namespace TicketReports

def Job.interrupt (job : Job) : Job := { job with outcome := some (.error interrupted) }

namespace History

/-- The jobs with those that were left running closed. They are numbered in the order in which they
stand, and `saves` tells which of them can be saved. -/
def reclaimed (saves : Nat → Bool) : Nat → List Job → List Job
  | _, [] => []
  | number, job :: rest =>
    if job.isRunning then
      (if saves number then job.interrupt else job) :: reclaimed saves (number + 1) rest
    else job :: reclaimed saves number rest

/-- What a start makes of the stored jobs. The running job at a place is the one whose number is
that of the running jobs before it. -/
structure Reclaimed (saves : Nat → Bool) (before after : List Job) : Prop where
  length : after.length = before.length
  finished (place : Nat) (job : Job) : before[place]? = some job → job.isRunning = false →
    after[place]? = some job
  closed (place : Nat) (job : Job) : before[place]? = some job → job.isRunning = true →
    saves ((before.take place).countP Job.isRunning) = true →
      after[place]? = some { job with outcome := some (.error interrupted) }
  unsaved (place : Nat) (job : Job) : before[place]? = some job → job.isRunning = true →
    saves ((before.take place).countP Job.isRunning) = false → after[place]? = some job

section Reclaimed

variable (saves : Nat → Bool)

theorem length_reclaimed (number : Nat) (jobs : List Job) :
    (reclaimed saves number jobs).length = jobs.length := by
  induction jobs generalizing number with
  | nil => rfl
  | cons job rest ih => by_cases running : job.isRunning = true <;> simp [reclaimed, running, ih]

theorem getElem?_reclaimed (number : Nat) (jobs : List Job) (place : Nat) :
    (reclaimed saves number jobs)[place]? = (jobs[place]?).map fun job =>
      if job.isRunning && saves (number + (jobs.take place).countP Job.isRunning) then
        job.interrupt
      else job := by
  induction jobs generalizing number place with
  | nil => rfl
  | cons job rest ih =>
    by_cases running : job.isRunning = true
    · cases place with
      | zero => cases saved : saves number <;> simp [reclaimed, running, saved]
      | succ place =>
        simp [reclaimed, running, ih, Nat.add_assoc, Nat.add_comm 1]
    · cases place <;> simp [reclaimed, running, ih]

theorem reclaimed_sound (number : Nat) (jobs : List Job) :
    Reclaimed (fun n => saves (number + n)) jobs (reclaimed saves number jobs) where
  length := length_reclaimed saves number jobs
  finished place job stored ended := by simp [getElem?_reclaimed, stored, ended]
  closed place job stored running saved := by
    simp [getElem?_reclaimed, stored, running, saved, Job.interrupt]
  unsaved place job stored _ missed := by simp [getElem?_reclaimed, stored, missed]

variable {saves}

theorem filter_reclaimed (number : Nat) (jobs : List Job)
    (all : ∀ rank < jobs.countP Job.isRunning, saves (number + rank) = true) :
    (reclaimed saves number jobs).filter Job.isRunning = [] := by
  induction jobs generalizing number with
  | nil => rfl
  | cons job rest ih =>
    by_cases running : job.isRunning = true
    · rw [List.countP_cons_of_pos running] at all
      have first : saves number = true := all 0 (by omega)
      have later := ih (number + 1) fun rank below => by
        rw [Nat.add_right_comm]
        exact all (rank + 1) (by omega)
      have closed : job.interrupt.isRunning = false := rfl
      simp [reclaimed, running, first, closed, later]
    · rw [List.countP_cons_of_neg running] at all
      simp [reclaimed, running, ih number all]

end Reclaimed

theorem map_merge_place {before rest : List Job} {job : Job} {id : JobId} (named : job.id = some id)
    (distinct : ((before ++ job :: rest).map Job.id).Nodup) (next : Job) :
    ((before ++ job :: rest).map fun stored =>
        if stored.id = some id then merge stored next else stored) =
      before ++ merge job next :: rest := by
  simp only [List.map_append, List.map_cons, named, List.nodup_middle, List.nodup_cons,
    List.mem_append, not_or] at distinct
  rw [List.map_append, List.map_cons, if_pos named, mergeFirst_of_not_mem distinct.1.1,
    mergeFirst_of_not_mem distinct.1.2]

end History

section Closing

variable {σ : Type} [JobStore σ]

def JobStore.interrupt (store : σ) (job : Job) : σ :=
  match job.finish (.error interrupted) with
  | .error _ => store
  | .ok closed => (JobStore.update closed store).2

def JobStore.interruptAll (store : σ) (stranded : List Job) : σ :=
  stranded.foldl JobStore.interrupt store

def JobStore.reclaim (store : σ) : σ :=
  match JobStore.running store with
  | (.ok stranded, store) => JobStore.interruptAll store stranded
  | (.error _, store) => store

end Closing

namespace Unreliable

open JobStore

variable {store : Unreliable History} {job : Job}

def saves (fails : Nat → StoreCall → Bool) (number : Nat) : Bool := !fails number .update

theorem interrupt_unsaved (running : job.isRunning = true)
    (fails : store.fails store.calls .update = true) :
    interrupt store job = { store with calls := store.calls + 1 } := by
  rw [interrupt, Job.finish_running running]
  exact congrArg Prod.snd (perform_failing fails)

theorem interrupt_saved {before rest : List Job} (running : job.isRunning = true)
    (jobs : store.inner.jobs = before ++ job :: rest) (named : job.id ≠ none)
    (distinct : (store.inner.jobs.map Job.id).Nodup)
    (answers : store.fails store.calls .update = false) :
    interrupt store job = { store with
      calls := store.calls + 1
      inner := { store.inner with jobs := before ++ job.interrupt :: rest } } := by
  obtain ⟨id, named⟩ := Option.ne_none_iff_exists'.mp named
  have stored : some id ∈ store.inner.jobs.map Job.id := by
    rw [jobs, ← named]
    exact List.mem_map_of_mem (by simp)
  have updated := History.update_stored distinct (show job.interrupt.id = some id from named) stored
  have placed := History.map_merge_place named (jobs ▸ distinct) job.interrupt
  rw [interrupt, Job.finish_running running]
  refine (congrArg Prod.snd (perform_answering answers)).trans ?_
  rw [show JobStore.update { job with outcome := some (.error interrupted) } store.inner = _ from
    updated, jobs]
  exact congrArg (fun jobs => { store with
    calls := store.calls + 1, inner := { store.inner with jobs } }) placed

theorem interruptAll_inner (before jobs : List Job) (store : Unreliable History)
    (stored : store.inner.jobs = before ++ jobs) (named : ∀ job ∈ jobs, job.id ≠ none)
    (distinct : (store.inner.jobs.map Job.id).Nodup) :
    (interruptAll store (jobs.filter Job.isRunning)).inner = { store.inner with
      jobs := before ++ History.reclaimed (saves store.fails) store.calls jobs } := by
  -- The induction is on the stored jobs and not on the stranded ones, which are but some of them: a
  -- finished job is passed without a call, and so the number of the next call stays.
  induction jobs generalizing before store with
  | nil =>
    rw [List.append_nil] at stored
    rw [History.reclaimed, List.append_nil, ← stored]
    rfl
  | cons job rest ih =>
    have later : ∀ job ∈ rest, job.id ≠ none := fun job member =>
      named job (List.mem_cons_of_mem _ member)
    by_cases running : job.isRunning = true
    · rw [List.filter_cons_of_pos running]
      change (interruptAll (interrupt store job) (rest.filter Job.isRunning)).inner = _
      cases fails : store.fails store.calls .update with
      | true =>
        rw [interrupt_unsaved running fails,
          ih (before ++ [job]) { store with calls := store.calls + 1 } (by simp [stored]) later
            distinct]
        simp [History.reclaimed, running, saves, fails]
      | false =>
        -- A closed job keeps its id, so that the jobs after it can be told apart as before.
        have kept : (before ++ job.interrupt :: rest).map Job.id = store.inner.jobs.map Job.id := by
          simp [stored, Job.interrupt]
        rw [interrupt_saved running stored (named job List.mem_cons_self) distinct fails,
          ih (before ++ [job.interrupt]) { store with
            calls := store.calls + 1
            inner := { store.inner with jobs := before ++ job.interrupt :: rest } }
            (by simp) later (by rwa [kept])]
        simp [History.reclaimed, running, saves, fails]
    · rw [List.filter_cons_of_neg running, ih (before ++ [job]) store (by simp [stored]) later
        distinct]
      simp [History.reclaimed, running]

theorem reclaim_unanswered (fails : store.fails store.calls .running = true) :
    (reclaim store).inner = store.inner := by
  have failed : JobStore.running store =
      (.error StoreCall.running.failure, { store with calls := store.calls + 1 }) :=
    perform_failing fails
  rw [reclaim, failed]

theorem reclaim_answered (answers : store.fails store.calls .running = false)
    (named : ∀ job ∈ store.inner.jobs, job.id ≠ none)
    (distinct : (store.inner.jobs.map Job.id).Nodup) :
    (reclaim store).inner = { store.inner with
      jobs := History.reclaimed (saves store.fails) (store.calls + 1) store.inner.jobs } := by
  have answered : JobStore.running store =
      (.ok (store.inner.jobs.filter Job.isRunning), { store with calls := store.calls + 1 }) :=
    perform_answering answers
  rw [reclaim, answered]
  exact interruptAll_inner [] store.inner.jobs { store with calls := store.calls + 1 } rfl named
    distinct

end Unreliable

namespace Processor

variable {σ W : Type} [JobStore σ] {p q : Processor σ W}

/-- A processor whose start has not returned. -/
inductive Starting (store : σ) (p : Processor σ W) : Prop
  | waits (early : p.worker = .absent ∨ p.worker = .surveying) (untouched : p.store = store)
  | reclaims (rest : List Job) (reclaiming : p.worker = .reclaiming rest)
      (ahead : JobStore.interruptAll p.store rest = JobStore.reclaim store)
  | opens (opening : p.worker = .opening) (done : p.store = JobStore.reclaim store)

namespace Starting

variable {store : σ}

theorem new (timeLimit : Nat) (store : σ) (world : W) :
    Starting store (Processor.new timeLimit store world) :=
  .waits (.inl rfl) rfl

theorem still (starting : Starting store p) (worker : q.worker = p.worker)
    (same : q.store = p.store) : Starting store q := by
  cases starting with
  | waits early untouched => exact .waits (worker ▸ early) (same.trans untouched)
  | reclaims rest reclaiming ahead => exact .reclaims rest (worker.trans reclaiming) (same ▸ ahead)
  | opens opening done => exact .opens (worker.trans opening) (same.trans done)

theorem early (starting : Starting store p) : p.worker.started = false := by
  cases starting with
  | waits early => rcases early with worker | worker <;> simp [worker, Worker.started]
  | reclaims rest reclaiming => simp [reclaiming, Worker.started]
  | opens opening => simp [opening, Worker.started]

theorem untouched (starting : Starting store p)
    (early : p.worker = .absent ∨ p.worker = .surveying) : p.store = store := by
  cases starting with
  | waits _ untouched => exact untouched
  | reclaims rest reclaiming => simp [reclaiming] at early
  | opens opening => simp [opening] at early

theorem left (starting : Starting store p) {rest : List Job}
    (reclaiming : p.worker = .reclaiming rest) :
    JobStore.interruptAll p.store rest = JobStore.reclaim store := by
  cases starting with
  | waits early => simp [reclaiming] at early
  | reclaims others other ahead =>
    obtain rfl : rest = others := by simpa [reclaiming] using other
    exact ahead
  | opens opening => simp [reclaiming] at opening

theorem finished (starting : Starting store p) (opening : p.worker = .opening) :
    p.store = JobStore.reclaim store := by
  cases starting with
  | waits early => simp [opening] at early
  | reclaims rest reclaiming => simp [opening] at reclaiming
  | opens _ done => exact done

variable [Stages W]

theorem turn {away : Bool} {now : Timestamp} {notes : List Note} (starting : Starting store p)
    (turn : Turn p away now q notes) :
    Starting store q ∨ q.worker.started = true ∧ q.ready = true ∧
      q.store = JobStore.reclaim store := by
  have before := starting.early
  cases turn with
  | rests => exact .inl starting
  | listens => exact .inl starting
  | blocked => exact .inl starting
  | surveyed stranded after surveying answer =>
    refine .inl (.reclaims stranded rfl ?_)
    rw [← starting.untouched (.inr surveying), JobStore.reclaim, answer]
  | unsurveyed error after surveying answer =>
    refine .inl (.opens rfl ?_)
    rw [← starting.untouched (.inr surveying), JobStore.reclaim, answer]
  | cleared reclaiming => exact .inl (.opens rfl (starting.left reclaiming))
  | passedOver job rest error reclaiming ended =>
    have ahead := starting.left reclaiming
    rw [JobStore.interruptAll, List.foldl_cons, JobStore.interrupt, ended] at ahead
    exact .inl (.reclaims rest rfl ahead)
  | reclaimed job closed rest reclaiming ended =>
    have ahead := starting.left reclaiming
    rw [JobStore.interruptAll, List.foldl_cons, JobStore.interrupt, ended] at ahead
    exact .inl (.reclaims rest rfl ahead)
  | opened free opens =>
    rcases opens with opening | ⟨id, reopening⟩
    · exact .inr ⟨rfl, rfl, starting.finished opening⟩
    · simp [reopening, Worker.started] at before
  | leaves listening => simp [listening, Worker.started] at before
  | received id listening => simp [listening, Worker.started] at before
  | began id looking => simp [looking, Worker.started] at before
  | advanced run q notes running => simp [running, Worker.started] at before
  | completed id finished => simp [finished, Worker.started] at before
  | stopped free leaving => simp [leaving, Worker.started] at before

theorem step (starting : Starting store p) (event : Event) :
    Starting store (p.step event).1 ∨ (p.step event).1.worker.started = true ∧
      (p.step event).1.ready = true ∧ (p.step event).1.store = JobStore.reclaim store := by
  have before := starting.early
  have move := p.step_spec event
  generalize (p.step event).1 = q, (p.step event).2 = notes at move ⊢
  cases move with
  | worked away now q notes turn => exact starting.turn turn
  | started absent => exact .inl (.waits (.inr rfl) (starting.untouched (.inl absent)))
  | expired run running => simp [running, Worker.started] at before
  | calledOff run running => simp [running, Worker.started] at before
  | _ => exact .inl (starting.still rfl rfl)

theorem steps (starting : Starting store p) (events : List Event)
    (unstarted : (p.steps events).1.worker.started = false) :
    Starting store (p.steps events).1 := by
  induction events using List.reverseRecOn with
  | nil => exact starting
  | append_singleton events event ih =>
    rw [steps_append] at unstarted ⊢
    have before := ih (step_early _ event unstarted)
    rcases before.step event with still | ⟨started, -⟩
    · exact still
    · exact absurd (started.symm.trans unstarted) (by simp)

end Starting

section Working

variable [Stages W] {now : Timestamp} (free : p.free = true)
include free

theorem work_opening (opening : p.worker = .opening) :
    (p.work false now).1 = { p with ready := true, worker := .listening } := by
  rw [work, opening]
  exact if_pos free

theorem works_reclaiming {stranded : List Job} (reclaiming : p.worker = .reclaiming stranded) :
    (p.steps (Event.works (stranded.length + 2) now)).1.worker = .listening := by
  induction stranded generalizing p with
  | nil =>
    have cleared : (p.work false now).1 = { p with worker := .opening } := by
      rw [work, reclaiming]
      rfl
    rw [List.length_nil, works_succ, cleared, works_succ, work_opening (by exact free) rfl]
    rfl
  | cons job rest ih =>
    have next : ∃ store, (p.work false now).1 = { p with store, worker := .reclaiming rest } := by
      rw [work, reclaiming]
      dsimp only [reclaim]
      cases job.finish (.error interrupted) with
      | error error => exact ⟨p.store, rfl⟩
      | ok closed => exact ⟨(JobStore.update closed p.store).2, rfl⟩
    obtain ⟨store, next⟩ := next
    rw [List.length_cons, Nat.add_right_comm, works_succ, next]
    exact ih free rfl

theorem works_started (unstarted : p.worker.started = false) (present : p.worker ≠ .absent)
    (now : Timestamp) : ∃ count, (p.steps (Event.works count now)).1.worker.started = true := by
  cases worker : p.worker with
  | absent => exact absurd worker present
  | surveying =>
    cases answer : JobStore.running p.store with
    | mk found store =>
      cases found with
      | error error =>
        have next : (p.work false now).1 = { p with store, worker := .opening } := by
          simp [work, worker, survey, answer]
        refine ⟨2, ?_⟩
        rw [works_succ, next, works_succ, work_opening (by exact free) rfl]
        rfl
      | ok stranded =>
        have next : (p.work false now).1 = { p with store, worker := .reclaiming stranded } := by
          simp [work, worker, survey, answer]
        refine ⟨stranded.length + 3, ?_⟩
        rw [works_succ, next, works_reclaiming (by exact free) rfl]
        rfl
  | reclaiming stranded =>
    refine ⟨stranded.length + 2, ?_⟩
    rw [works_reclaiming free worker]
    rfl
  | opening =>
    refine ⟨1, ?_⟩
    rw [works_succ, work_opening free worker]
    rfl
  | _ => simp [worker, Worker.started] at unstarted

theorem start_returns (unstarted : p.worker.started = false) (now : Timestamp) :
    ∃ count, (p.steps (.start :: Event.works count now)).1.worker.started = true := by
  by_cases absent : p.worker = .absent
  · have next : (p.step .start).1 = { p with worker := .surveying } := by
      simp [step, start, absent]
    change ∃ count, ((p.step .start).1.steps (Event.works count now)).1.worker.started = true
    rw [next]
    exact works_started (by exact free) rfl (by simp) now
  · have next : (p.step .start).1 = p := by
      rw [step, start]
      split
      next => contradiction
      next => rfl
    change ∃ count, ((p.step .start).1.steps (Event.works count now)).1.worker.started = true
    rw [next]
    exact works_started free unstarted absent now

end Working

/-- A start leaves the store with each stranded job closed that could be saved and everything else
as it was. -/
theorem start_reclaims_stranded_jobs [Stages W] (timeLimit : Nat) (world : W) (history : History)
    (calls : Nat) (fails : Nat → StoreCall → Bool) (named : ∀ job ∈ history.jobs, job.id ≠ none)
    (distinct : (history.jobs.map Job.id).Nodup) (events : List Event) :
    let p := Processor.new timeLimit ({ inner := history, calls, fails } : Unreliable History) world
    let q := (p.steps events).1
    q.worker.started = false →
      (∀ event, let r := (q.step event).1
        r.worker.started = true →
          r.ready = true ∧ r.store.inner.capacity = history.capacity ∧
          (fails calls .running = true → r.store.inner = history) ∧
          (fails calls .running = false →
            History.Reclaimed (fun rank => !fails (calls + 1 + rank) .update) history.jobs
              r.store.inner.jobs ∧
            ((∀ rank < history.jobs.countP Job.isRunning,
                fails (calls + 1 + rank) .update = false) →
              (JobStore.running r.store.inner).1 = .ok []))) ∧
      ∀ now, ∃ count, (q.steps (.start :: Event.works count now)).1.worker.started = true := by
  intro p q unstarted
  have starting : Starting p.store q :=
    (Starting.new timeLimit p.store world).steps events unstarted
  constructor
  · intro event r started
    rcases starting.step event with still | ⟨-, ready, store⟩
    · exact absurd (started.symm.trans still.early) (by simp)
    cases survey : fails calls .running with
    | true =>
      have inner : r.store.inner = history :=
        (congrArg Unreliable.inner store).trans (Unreliable.reclaim_unanswered survey)
      exact ⟨ready, by rw [inner], fun _ => inner, nofun⟩
    | false =>
      have inner : r.store.inner = { history with
          jobs := History.reclaimed (Unreliable.saves fails) (calls + 1) history.jobs } :=
        (congrArg Unreliable.inner store).trans (Unreliable.reclaim_answered survey named distinct)
      rw [inner]
      refine ⟨ready, rfl, nofun, fun _ => ⟨?_, fun saved => ?_⟩⟩
      · exact History.reclaimed_sound (Unreliable.saves fails) (calls + 1) history.jobs
      · refine congrArg Except.ok (History.filter_reclaimed (calls + 1) history.jobs ?_)
        intro rank below
        rw [Unreliable.saves, saved rank below]
        rfl
  · -- Until admission opens no caller gets hold of the state, and nobody else could block a start.
    have admission := Admission.reached timeLimit p.store world events
    have free : q.free = true := by
      by_contra taken
      have ready := admission.locked (Bool.eq_false_iff.mpr taken)
      exact absurd (ready.symm.trans (admission.unopened unstarted).1) (by simp)
    exact start_returns free unstarted

section Stranded

def stranding : List History.Call :=
  [.add ⟨1⟩ (.new .all ⟨1, 0⟩), .add ⟨2⟩ (.new .all ⟨2, 0⟩), .add ⟨3⟩ (.new .all ⟨3, 0⟩),
    .update (History.named 1 (some .success))]

def stranded : History := (History.withCapacity 3).serve stranding

def firstUnsaved (number : Nat) (call : StoreCall) : Bool := number == 1 && call == .update

theorem job_behind_an_unsaved_one_is_reclaimed :
    let now : Timestamp := ⟨4, 0⟩
    let store : Unreliable History := { inner := stranded, fails := firstUnsaved }
    let q := ((Processor.new 60 store ({} : Scripted)).steps (.start :: Event.works 4 now)).1
    let r := (q.step (.work false now)).1
    (∀ job ∈ stranded.jobs, job.id ≠ none) ∧ (stranded.jobs.map Job.id).Nodup ∧
      q.worker.started = false ∧ r.worker.started = true ∧ r.ready = true ∧
      firstUnsaved 0 .running = false ∧
      History.Reclaimed (fun rank => !firstUnsaved (1 + rank) .update) stranded.jobs
        r.store.inner.jobs ∧
      r.store.inner.jobs[1]? = some (History.named 2 none) ∧
      r.store.inner.jobs[2]? = some (History.named 3 (some (.error interrupted))) := by
  intro now store q r
  have ordered := History.Ordered.reached 3 stranding
  have named := ordered.named (History.Call.added_named stranding)
  have distinct := ordered.ids (by decide)
  have unstarted : q.worker.started = false := by decide
  have started : r.worker.started = true := by decide
  obtain ⟨returns, -⟩ := start_reclaims_stranded_jobs 60 ({} : Scripted) stranded 0 firstUnsaved
    named distinct (.start :: Event.works 4 now) unstarted
  obtain ⟨ready, -, -, surveyed⟩ := returns (.work false now) started
  obtain ⟨reclaimed, -⟩ := surveyed rfl
  exact ⟨named, distinct, unstarted, started, ready, rfl, reclaimed,
    reclaimed.unsaved 1 _ rfl rfl rfl, reclaimed.closed 2 _ rfl rfl rfl⟩

end Stranded

end Processor

end TicketReports
