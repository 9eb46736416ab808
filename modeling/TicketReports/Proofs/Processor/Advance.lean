import TicketReports.Processor.Basic

/-!
What a processor can do next. `advance_spec` lists the cases of a working run, `work_spec` those of
the worker and `step_spec` those of all parties, each once; what a step keeps is read off them.
-/

set_option autoImplicit false

namespace TicketReports

namespace Action

def asks? : Action → Option Step
  | .perform step => some step
  | .resume step => some step
  | _ => none

def calls : Action → List Note
  | .perform step => [.called step]
  | _ => []

end Action

namespace Processor

variable {σ W : Type} [JobStore σ] [Stages W]

inductive Advance (p : Processor σ W) (run : Run) (now : Timestamp) :
    Processor σ W → List Note → Prop
  | retire (spent : run.todo = []) (closing : run.closing = true) :
      Advance p run now { p with worker := .finished run.id } []
  | succeed (spent : run.todo = []) (working : run.closing = false) :
      Advance p run now
        { p with
          counters := p.counters.countSucceeded
          worker := .running (run.close .success) }
        [.ended run.id true]
  | done (action : Action) (step : Step) (rest : List Action) (left : Nat) (world : W)
      (todo : run.todo = action :: rest) (asks : action.asks? = some step)
      (answer : Stages.perform step run.left p.world = (.done, left, world)) :
      Advance p run now
        { p with world, worker := .running { run with left, todo := rest } } action.calls
  | wait (action : Action) (step : Step) (rest : List Action) (left : Nat) (world : W)
      (todo : run.todo = action :: rest) (asks : action.asks? = some step)
      (answer : Stages.perform step run.left p.world = (.waiting, left, world)) :
      Advance p run now
        { p with world, worker := .running { run with left, todo := .resume step :: rest } }
        action.calls
  | fail (action : Action) (step : Step) (rest : List Action) (left : Nat) (world : W)
      (error : StepError) (todo : run.todo = action :: rest) (asks : action.asks? = some step)
      (answer : Stages.perform step run.left p.world = (.failed error, left, world)) :
      Advance p run now
        { p with
          world
          counters := p.counters.countFailed
          worker := .running ({ run with left }.close (.error error.message)) }
        (action.calls ++ [.ended run.id false])
  | panic (action : Action) (step : Step) (rest : List Action) (left : Nat) (world : W)
      (detail : String) (todo : run.todo = action :: rest) (asks : action.asks? = some step)
      (answer : Stages.perform step run.left p.world = (.panicked detail, left, world)) :
      Advance p run now
        { p with
          world
          counters := p.counters.countFailed
          worker := .running ({ run with left }.close (run.aborted detail)) }
        (action.calls ++ [.ended run.id false])
  | missing (change : Job.Change) (rest : List Action) (error : StoreError) (store : σ)
      (todo : run.todo = .record change :: rest)
      (answer : JobStore.get run.id p.store = (.error error, store)) :
      Advance p run now { p with store, worker := .running { run with todo := rest } } []
  | declined (change : Job.Change) (rest : List Action) (job : Job) (error : DomainError)
      (store : σ) (todo : run.todo = .record change :: rest)
      (answer : JobStore.get run.id p.store = (.ok job, store))
      (applied : job.apply now change = .error error) :
      Advance p run now { p with store, worker := .running { run with todo := rest } } []
  | changed (change : Job.Change) (rest : List Action) (job next : Job) (store : σ)
      (todo : run.todo = .record change :: rest)
      (answer : JobStore.get run.id p.store = (.ok job, store))
      (applied : job.apply now change = .ok next) :
      Advance p run now
        { p with store, worker := .running { run with todo := .save next :: rest } } []
  | saved (job : Job) (rest : List Action) (todo : run.todo = .save job :: rest) :
      Advance p run now
        { p with
          store := (JobStore.update job p.store).2
          worker := .running { run with todo := rest } } []

theorem ask_spec (p : Processor σ W) (run : Run) (now : Timestamp) (action : Action) (step : Step)
    (rest : List Action) (todo : run.todo = action :: rest) (asks : action.asks? = some step)
    (result : StepEnd) (left : Nat) (world : W)
    (answer : Stages.perform step run.left p.world = (result, left, world)) :
    Advance p run now (afterStep { run with left } step rest { p with world } result).1
      (action.calls ++ (afterStep { run with left } step rest { p with world } result).2) := by
  cases result with
  | done =>
    rw [afterStep, List.append_nil]
    exact .done action step rest left world todo asks answer
  | waiting =>
    rw [afterStep, List.append_nil]
    exact .wait action step rest left world todo asks answer
  | failed error => exact .fail action step rest left world error todo asks answer
  | panicked detail => exact .panic action step rest left world detail todo asks answer

theorem advance_spec (p : Processor σ W) (run : Run) (now : Timestamp) :
    Advance p run now (p.advance run now).1 (p.advance run now).2 := by
  unfold advance
  split
  next spent =>
    split
    next closing => exact .retire spent closing
    next working => exact .succeed spent (Bool.eq_false_iff.mpr working)
  next step rest todo => exact ask_spec p run now (.perform step) step rest todo rfl _ _ _ rfl
  next step rest todo => exact ask_spec p run now (.resume step) step rest todo rfl _ _ _ rfl
  next change rest todo =>
    split
    next error store answer => exact .missing change rest error store todo answer
    next job store answer =>
      split
      next error applied => exact .declined change rest job error store todo answer applied
      next next applied => exact .changed change rest job next store todo answer applied
  next job rest todo => exact .saved job rest todo

inductive Turn (p : Processor σ W) (away : Bool) (now : Timestamp) :
    Processor σ W → List Note → Prop
  | rests (gone : p.worker = .absent ∨ p.worker = .stopped) : Turn p away now p []
  | listens (listening : p.worker = .listening) (empty : p.mailbox = none) : Turn p away now p []
  | blocked (taken : p.free = false)
      (sets : p.worker = .opening ∨ (∃ id, p.worker = .reopening id) ∨ p.worker = .leaving) :
      Turn p away now p []
  | surveyed (stranded : List Job) (store : σ) (surveying : p.worker = .surveying)
      (answer : JobStore.running p.store = (.ok stranded, store)) :
      Turn p away now { p with store, worker := .reclaiming stranded } []
  | unsurveyed (error : StoreError) (store : σ) (surveying : p.worker = .surveying)
      (answer : JobStore.running p.store = (.error error, store)) :
      Turn p away now { p with store, worker := .opening } []
  | cleared (reclaiming : p.worker = .reclaiming []) :
      Turn p away now { p with worker := .opening } []
  | passedOver (job : Job) (rest : List Job) (error : DomainError)
      (reclaiming : p.worker = .reclaiming (job :: rest))
      (ended : job.finish (.error interrupted) = .error error) :
      Turn p away now { p with worker := .reclaiming rest } []
  | reclaimed (job closed : Job) (rest : List Job)
      (reclaiming : p.worker = .reclaiming (job :: rest))
      (ended : job.finish (.error interrupted) = .ok closed) :
      Turn p away now
        { p with store := (JobStore.update closed p.store).2, worker := .reclaiming rest } []
  | opened (free : p.free = true) (opens : p.worker = .opening ∨ ∃ id, p.worker = .reopening id) :
      Turn p away now { p with ready := true, worker := .listening } []
  | leaves (listening : p.worker = .listening) (chosen : away = true)
      (stopping : p.stopping = true) : Turn p away now { p with worker := .leaving } []
  | received (id : JobId) (listening : p.worker = .listening) (sent : p.mailbox = some id) :
      Turn p away now { p with mailbox := none, worker := .looking id } []
  | began (id : JobId) (looking : p.worker = .looking id) :
      Turn p away now (p.lookUp id).1 (p.lookUp id).2
  | advanced (run : Run) (q : Processor σ W) (notes : List Note) (running : p.worker = .running run)
      (advance : Advance p run now q notes) : Turn p away now q notes
  | completed (id : JobId) (finished : p.worker = .finished id) :
      Turn p away now { p with worker := if p.stopping then .listening else .reopening id } []
  | stopped (free : p.free = true) (leaving : p.worker = .leaving) :
      Turn p away now { p with ready := false, worker := .stopped } []

theorem work_spec (p : Processor σ W) (away : Bool) (now : Timestamp) :
    Turn p away now (p.work away now).1 (p.work away now).2 := by
  unfold work
  split
  next absent => exact .rests (.inl absent)
  next surveying =>
    unfold survey
    split
    next stranded store answer => exact .surveyed stranded store surveying answer
    next error store answer => exact .unsurveyed error store surveying answer
  next stranded reclaiming =>
    unfold reclaim
    split
    next => exact .cleared reclaiming
    next job rest =>
      split
      next error ended => exact .passedOver job rest error reclaiming ended
      next closed ended => exact .reclaimed job closed rest reclaiming ended
  next opening =>
    unfold setReady
    split
    next free => exact .opened free (.inl opening)
    next taken => exact .blocked (Bool.eq_false_iff.mpr taken) (.inl opening)
  next listening =>
    unfold listen
    split
    next leaves =>
      have both : away = true ∧ p.stopping = true := by simpa using leaves
      exact .leaves listening both.1 both.2
    next =>
      split
      next id sent => exact .received id listening sent
      next empty => exact .listens listening empty
  next id looking => exact .began id looking
  next run running => exact .advanced run _ _ running (p.advance_spec run now)
  next id finished => exact .completed id finished
  next id reopening =>
    unfold setReady
    split
    next free => exact .opened free (.inr ⟨id, reopening⟩)
    next taken => exact .blocked (Bool.eq_false_iff.mpr taken) (.inr (.inl ⟨id, reopening⟩))
  next leaving =>
    unfold setReady
    split
    next free => exact .stopped free leaving
    next taken => exact .blocked (Bool.eq_false_iff.mpr taken) (.inr (.inr leaving))
  next stopped => exact .rests (.inr stopped)

inductive Move (p : Processor σ W) : Event → Processor σ W → List Note → Prop
  | passed (event : Event) (calm : ∀ id, event ≠ .enter id) : Move p event p []
  | barred (id : JobId) (taken : p.free = false) : Move p (.enter id) p []
  | refused (id : JobId) (free : p.free = true)
      (shut : (p.ready && p.mailbox.isNone && p.worker.receives) = false) :
      Move p (.enter id) p [.refused id]
  | filled (id : JobId) (free : p.free = true) (ready : p.ready = true) (empty : p.mailbox = none)
      (receives : p.worker.receives = true) :
      Move p (.enter id) { p with mailbox := some id, caller := some id } []
  | admitted (id : JobId) (calls : p.caller = some id) :
      Move p .leave { p with ready := false, caller := none } [.admitted id]
  | started (absent : p.worker = .absent) : Move p .start { p with worker := .surveying } []
  | refusedStart (present : p.worker ≠ .absent) : Move p .start p [.refusedStart]
  | worked (away : Bool) (now : Timestamp) (q : Processor σ W) (notes : List Note)
      (turn : Turn p away now q notes) : Move p (.work away now) q notes
  | expired (run : Run) (running : p.worker = .running run) :
      Move p .expire { p with worker := .running run.cancel } []
  | calledOff (run : Run) (running : p.worker = .running run) :
      Move p .shutdown { p with stopping := true, worker := .running run.cancel } []
  | told (present : p.worker ≠ .absent) (idle : ∀ run, p.worker ≠ .running run) :
      Move p .shutdown { p with stopping := true } []
  | closed (stopping : p.stopping = true) (stopped : p.worker = .stopped)
      (unclosed : p.closed = false) :
      Move p .close { p with world := Stages.close p.world, closed := true } [.closed]

theorem step_spec (p : Processor σ W) (event : Event) :
    Move p event (p.step event).1 (p.step event).2 := by
  cases event with
  | work away now => exact .worked away now _ _ (p.work_spec away now)
  | enter id =>
    rw [step, enter]
    split
    next taken => exact .barred id (by simpa using taken)
    next taken =>
      have free : p.free = true := by simpa using taken
      split
      next accepts =>
        simp only [Bool.and_eq_true, Option.isNone_iff_eq_none] at accepts
        exact .filled id free accepts.1.1 accepts.1.2 accepts.2
      next declines => exact .refused id free (Bool.eq_false_iff.mpr declines)
  | leave =>
    rw [step, leave]
    split
    next => exact .passed _ nofun
    next id calls => exact .admitted id calls
  | start =>
    rw [step, start]
    split
    next absent => exact .started absent
    next present => exact .refusedStart present
  | expire =>
    rw [step, expire]
    split
    next run running => exact .expired run running
    next => exact .passed _ nofun
  | shutdown =>
    rw [step, shutdown]
    split
    next => exact .passed _ nofun
    next run running => exact .calledOff run running
    next present idle => exact .told present idle
  | close =>
    rw [step, close]
    split
    next ends =>
      simp only [Bool.and_eq_true, beq_iff_eq, Bool.not_eq_true'] at ends
      exact .closed ends.1.1 ends.1.2 ends.2
    next => exact .passed _ nofun

end Processor

end TicketReports
