import TicketReports.JobStore.Basic
import TicketReports.Metrics
import TicketReports.Processor.Run

/-!
The job processor: one admission at a time, one worker, one run at a time.

The state holds every party at once: a caller that has handed its id over but not yet closed
admission, the mailbox of one place, the worker and its run. What the parties do in one
uninterrupted step is one event, so that an interleaving is a list of events.
-/

set_option autoImplicit false

namespace TicketReports

inductive AdmissionError where
  | busy
  | alreadyStarted
  | workerStopped
  deriving DecidableEq, Repr

def AdmissionError.message : AdmissionError → String
  | .busy => "job is being processed, try it later"
  | .alreadyStarted => "job processor already started"
  | .workerStopped => "job processor worker stopped before becoming ready"

def interrupted : String := "interrupted before completion"

inductive Worker where
  | absent
  | surveying
  | reclaiming (stranded : List Job)
  | opening
  | listening
  | looking (id : JobId)
  | running (run : Run)
  | finished (id : JobId)
  -- Not stopping a moment ago; about to open admission again.
  | reopening (id : JobId)
  | leaving
  | stopped
  deriving DecidableEq, Repr

namespace Worker

def held? : Worker → Option JobId
  | .looking id => some id
  | .running run => some run.id
  | .finished id => some id
  | .reopening id => some id
  | _ => none

def receives : Worker → Bool
  | .stopped => false
  | _ => true

def started : Worker → Bool
  | .absent => false
  | .surveying => false
  | .reclaiming _ => false
  | .opening => false
  | _ => true

end Worker

/-- The processor, the job store it records in and the world its runs act on. -/
structure Processor (σ W : Type) where
  -- In nanoseconds.
  timeLimit : Nat
  store : σ
  world : W
  ready : Bool := false
  caller : Option JobId := none
  mailbox : Option JobId := none
  worker : Worker := .absent
  stopping : Bool := false
  closed : Bool := false
  counters : Counters := {}
  runs : Nat := 0

inductive Note where
  | refused (id : JobId)
  | admitted (id : JobId)
  | refusedStart
  | began (id : JobId)
  | called (step : Step)
  | ended (id : JobId) (success : Bool)
  | closed
  deriving DecidableEq, Repr

inductive Event where
  | enter (id : JobId)
  | leave
  | start
  -- Where the worker may either listen or leave, `away` decides.
  | work (away : Bool) (now : Timestamp)
  | expire
  | shutdown
  | close
  deriving DecidableEq, Repr

namespace Processor

variable {σ W : Type}

def new (timeLimit : Nat) (store : σ) (world : W) : Processor σ W := { timeLimit, store, world }

def free (p : Processor σ W) : Bool := p.caller.isNone

def enter (id : JobId) (p : Processor σ W) : Processor σ W × List Note :=
  if !p.free then (p, [])
  else if p.ready && p.mailbox.isNone && p.worker.receives then
    ({ p with mailbox := some id, caller := some id }, [])
  else (p, [.refused id])

def leave (p : Processor σ W) : Processor σ W × List Note :=
  match p.caller with
  | none => (p, [])
  | some id => ({ p with ready := false, caller := none }, [.admitted id])

def start (p : Processor σ W) : Processor σ W × List Note :=
  match p.worker with
  | .absent => ({ p with worker := .surveying }, [])
  | _ => (p, [.refusedStart])

def shutdown (p : Processor σ W) : Processor σ W × List Note :=
  match p.worker with
  | .absent => (p, [])
  | .running run => ({ p with stopping := true, worker := .running run.cancel }, [])
  | _ => ({ p with stopping := true }, [])

def expire (p : Processor σ W) : Processor σ W × List Note :=
  match p.worker with
  | .running run => ({ p with worker := .running run.cancel }, [])
  | _ => (p, [])

def setReady (ready : Bool) (worker : Worker) (p : Processor σ W) : Processor σ W :=
  if p.free then { p with ready, worker } else p

def listen (away : Bool) (p : Processor σ W) : Processor σ W :=
  if away && p.stopping then { p with worker := .leaving }
  else
    match p.mailbox with
    | some id => { p with mailbox := none, worker := .looking id }
    | none => p

variable [JobStore σ]

def survey (p : Processor σ W) : Processor σ W :=
  match JobStore.running p.store with
  | (.ok stranded, store) => { p with store, worker := .reclaiming stranded }
  | (.error _, store) => { p with store, worker := .opening }

def reclaim (stranded : List Job) (p : Processor σ W) : Processor σ W :=
  match stranded with
  | [] => { p with worker := .opening }
  | job :: rest =>
    match job.finish (.error interrupted) with
    | .error _ => { p with worker := .reclaiming rest }
    | .ok job => { p with store := (JobStore.update job p.store).2, worker := .reclaiming rest }

def lookUp (id : JobId) (p : Processor σ W) : Processor σ W × List Note :=
  let (found, store) := JobStore.get id p.store
  let kind := match found with
    | .ok job => job.kind
    | .error _ => .all
  let left := if p.stopping then 0 else p.timeLimit
  ({ p with store, runs := p.runs + 1, worker := .running (Run.begin id (p.runs + 1) left kind) },
    [.began id])

def settle (run : Run) (status : FinalStatus) (p : Processor σ W) : Processor σ W × List Note :=
  let counters :=
    if status.isSuccess then p.counters.countSucceeded else p.counters.countFailed
  ({ p with counters, worker := .running (run.close status) }, [.ended run.id status.isSuccess])

def afterStep (run : Run) (step : Step) (rest : List Action) (p : Processor σ W) :
    StepEnd → Processor σ W × List Note
  | .done => ({ p with worker := .running { run with todo := rest } }, [])
  | .failed error => p.settle run (.error error.message)
  | .panicked detail => p.settle run (run.aborted detail)
  | .waiting => ({ p with worker := .running { run with todo := .resume step :: rest } }, [])

def advance [Stages W] (run : Run) (now : Timestamp) (p : Processor σ W) :
    Processor σ W × List Note :=
  match run.todo with
  | [] =>
    if run.closing then ({ p with worker := .finished run.id }, []) else p.settle run .success
  | .perform step :: rest =>
    let (result, left, world) := Stages.perform step run.left p.world
    let (p, notes) := afterStep { run with left } step rest { p with world } result
    (p, .called step :: notes)
  | .resume step :: rest =>
    let (result, left, world) := Stages.perform step run.left p.world
    afterStep { run with left } step rest { p with world } result
  | .record change :: rest =>
    match JobStore.get run.id p.store with
    | (.error _, store) => ({ p with store, worker := .running { run with todo := rest } }, [])
    | (.ok job, store) =>
      match job.apply now change with
      | .error _ => ({ p with store, worker := .running { run with todo := rest } }, [])
      | .ok job => ({ p with store, worker := .running { run with todo := .save job :: rest } }, [])
  | .save job :: rest =>
    let (_, store) := JobStore.update job p.store
    ({ p with store, worker := .running { run with todo := rest } }, [])

def work [Stages W] (away : Bool) (now : Timestamp) (p : Processor σ W) :
    Processor σ W × List Note :=
  match p.worker with
  | .absent => (p, [])
  | .surveying => (p.survey, [])
  | .reclaiming stranded => (p.reclaim stranded, [])
  | .opening => (p.setReady true .listening, [])
  | .listening => (p.listen away, [])
  | .looking id => p.lookUp id
  | .running run => p.advance run now
  | .finished id => ({ p with worker := if p.stopping then .listening else .reopening id }, [])
  | .reopening _ => (p.setReady true .listening, [])
  | .leaving => (p.setReady false .stopped, [])
  | .stopped => (p, [])

def close [Stages W] (p : Processor σ W) : Processor σ W × List Note :=
  if p.stopping && p.worker == .stopped && !p.closed then
    ({ p with world := Stages.close p.world, closed := true }, [.closed])
  else (p, [])

def step [Stages W] (p : Processor σ W) : Event → Processor σ W × List Note
  | .enter id => p.enter id
  | .leave => p.leave
  | .start => p.start
  | .work away now => p.work away now
  | .expire => p.expire
  | .shutdown => p.shutdown
  | .close => p.close

def steps [Stages W] (p : Processor σ W) : List Event → Processor σ W × List Note
  | [] => (p, [])
  | event :: events =>
    let (p, notes) := p.step event
    let (p, later) := p.steps events
    (p, notes ++ later)

end Processor

end TicketReports
