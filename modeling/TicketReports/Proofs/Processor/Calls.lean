import TicketReports.Proofs.Processor.Admission

set_option autoImplicit false

namespace TicketReports

/-- A world with every call that has come back, and how it ended. -/
structure Logged (W : Type) where
  world : W
  log : List (Step × StepEnd) := []

instance {W : Type} [Stages W] : Stages (Logged W) where
  perform step left logged :=
    let (result, left, world) := Stages.perform step left logged.world
    let log := if result = .waiting then logged.log else logged.log ++ [(step, result)]
    (result, left, { world, log })
  close logged := { logged with world := Stages.close logged.world }

theorem Logged.log_perform {W : Type} [Stages W] {step : Step} {left rest : Nat}
    {logged next : Logged W} {result : StepEnd}
    (answer : Stages.perform step left logged = (result, rest, next)) :
    next.log = if result = .waiting then logged.log else logged.log ++ [(step, result)] := by
  simp only [Stages.perform, Prod.mk.injEq] at answer
  obtain ⟨rfl, rfl, rfl⟩ := answer
  rfl

namespace Note

def called? : Note → Option Step
  | .called step => some step
  | _ => none

def calls (notes : List Note) : List Step := notes.filterMap called?

@[simp] theorem calls_append (notes later : List Note) :
    calls (notes ++ later) = calls notes ++ calls later :=
  List.filterMap_append

end Note

namespace Action

def waits? : Action → Option Step
  | .resume step => some step
  | _ => none

theorem waits_plan (kind : JobKind) : (plan kind).filterMap waits? = [] := by
  refine List.filterMap_eq_nil_iff.mpr fun action member => ?_
  rw [plan, List.mem_cons, List.mem_cons, List.mem_flatMap] at member
  rcases member with rfl | rfl | ⟨phase, _, member⟩
  · rfl
  · rfl
  · rw [ofPhase, List.cons_append, List.mem_cons, List.mem_append, List.mem_map,
      List.mem_singleton] at member
    rcases member with rfl | ⟨step, _, rfl⟩ | rfl <;> rfl

end Action

def Worker.unanswered : Worker → List Step
  | .running run => run.todo.filterMap Action.waits?
  | _ => []

theorem Worker.unanswered_idle {worker : Worker} (idle : ∀ run, worker ≠ .running run) :
    worker.unanswered = [] := by
  cases worker with
  | running run => exact absurd rfl (idle run)
  | _ => rfl

namespace Processor

variable {σ W : Type}

/-- What was called has come back, but for the call that the worker waits for; and it waits for one
at a time. -/
structure Answered (p : Processor σ (Logged W)) (notes : List Note) : Prop where
  calls : Note.calls notes = p.world.log.map Prod.fst ++ p.worker.unanswered
  lone : ∀ run, p.worker = .running run → run.todo.tail.filterMap Action.waits? = []

namespace Answered

variable {p q : Processor σ (Logged W)} {notes later : List Note}

theorem new (timeLimit : Nat) (store : σ) (world : W) :
    Answered (Processor.new timeLimit store ({ world } : Logged W)) [] :=
  ⟨rfl, nofun⟩

theorem idle (before : Answered p notes) (quiet : Note.calls later = [])
    (log : q.world.log = p.world.log) (waits : q.worker.unanswered = p.worker.unanswered)
    (lone : ∀ run, q.worker = .running run → run.todo.tail.filterMap Action.waits? = []) :
    Answered q (notes ++ later) := by
  refine ⟨?_, lone⟩
  rw [Note.calls_append, quiet, List.append_nil, log, waits]
  exact before.calls

theorem cancel (before : Answered p notes) {run : Run} (running : p.worker = .running run)
    (stopping : Bool) :
    Answered { p with stopping, worker := .running run.cancel } (notes ++ []) := by
  refine before.idle rfl rfl (by rw [running]; rfl) fun next runs => ?_
  cases runs
  exact before.lone run running

theorem lookUp [JobStore σ] (before : Answered p notes) {id : JobId}
    (looking : p.worker = .looking id) :
    Answered (p.lookUp id).1 (notes ++ (p.lookUp id).2) := by
  have nothing : p.worker.unanswered = [] := by rw [looking]; rfl
  have begun : (p.lookUp id).1.worker.unanswered = [] := Action.waits_plan _
  refine before.idle rfl rfl (begun.trans nothing.symm) fun run running => ?_
  cases running
  exact Action.waits_plan _

variable [JobStore σ] [Stages W]

theorem advance (before : Answered p notes) {run : Run} (running : p.worker = .running run)
    {now : Timestamp} (advance : Advance p run now q later) : Answered q (notes ++ later) := by
  have calls := before.calls
  have lone := before.lone run running
  rw [running, Worker.unanswered] at calls
  have others : ∀ {action : Action} {rest : List Action}, run.todo = action :: rest →
      rest.filterMap Action.waits? = [] := by
    intro action rest todo
    rwa [todo] at lone
  have ended : ∀ {rest : List Action}, rest.filterMap Action.waits? = [] →
      rest.tail.filterMap Action.waits? = [] := by
    intro rest none
    cases rest with
    | nil => rfl
    | cons action rest =>
      rw [List.filterMap_eq_nil_iff] at none ⊢
      exact fun other member => none other (List.mem_cons_of_mem action member)
  -- Whether a step is called now or was called before, it has been noted once.
  have asked : ∀ {action : Action} {step : Step} {rest : List Action}, run.todo = action :: rest →
      action.asks? = some step →
      Note.calls (notes ++ action.calls) = p.world.log.map Prod.fst ++ [step] := by
    intro action step rest todo asks
    rw [todo] at calls
    rw [Note.calls_append, calls]
    cases action with
    | perform _ =>
      cases asks
      rw [List.filterMap_cons_none rfl, others todo, List.append_nil]
      rfl
    | resume _ =>
      cases asks
      have waits : (Action.resume step :: rest).filterMap Action.waits? = [step] :=
        congrArg (step :: ·) (others todo)
      rw [waits]
      exact List.append_nil _
    | record _ => cases asks
    | save _ => cases asks
  have back : ∀ {step : Step} {result : StepEnd} {left : Nat} {world : Logged W},
      Stages.perform step run.left p.world = (result, left, world) → result ≠ .waiting →
      world.log.map Prod.fst = p.world.log.map Prod.fst ++ [step] := by
    intro step result left world answer done
    rw [Logged.log_perform answer, if_neg done, List.map_append]
    rfl
  have silent : ∀ {action : Action} {rest : List Action}, run.todo = action :: rest →
      action.waits? = none → Note.calls (notes ++ []) = p.world.log.map Prod.fst := by
    intro action rest todo waits
    rw [List.append_nil, calls, todo, List.filterMap_cons_none waits, others todo, List.append_nil]
  have passes : ∀ {action : Action} {rest : List Action}, run.todo = action :: rest →
      action.waits? = none → ∀ store : σ,
      Answered { p with store, worker := .running { run with todo := rest } } (notes ++ []) := by
    intro action rest todo waits store
    refine ⟨?_, fun next running => ?_⟩
    · rw [silent todo waits, Worker.unanswered, others todo, List.append_nil]
    · cases running
      exact ended (others todo)
  cases advance with
  | retire spent closing =>
    rw [spent] at calls
    exact ⟨by rw [List.append_nil]; exact calls, nofun⟩
  | succeed spent working =>
    rw [spent] at calls
    refine ⟨?_, fun next running => ?_⟩
    · rw [Note.calls_append, calls]
      exact List.append_nil _
    · cases running
      rfl
  | done action step rest left world todo asks answer =>
    refine ⟨?_, fun next running => ?_⟩
    · rw [asked todo asks, ← back answer (by simp), Worker.unanswered, others todo, List.append_nil]
    · cases running
      exact ended (others todo)
  | wait action step rest left world todo asks answer =>
    refine ⟨?_, fun next running => ?_⟩
    · have log := (Logged.log_perform answer).trans (if_pos rfl)
      rw [asked todo asks, log]
      exact congrArg (p.world.log.map Prod.fst ++ step :: ·) (others todo).symm
    · cases running
      exact others todo
  | fail action step rest left world error todo asks answer =>
    refine ⟨?_, fun next running => ?_⟩
    · rw [← List.append_assoc, Note.calls_append, asked todo asks, ← back answer (by simp)]
      rfl
    · cases running
      rfl
  | panic action step rest left world detail todo asks answer =>
    refine ⟨?_, fun next running => ?_⟩
    · rw [← List.append_assoc, Note.calls_append, asked todo asks, ← back answer (by simp)]
      rfl
    · cases running
      rfl
  | missing change rest error store todo answer => exact passes todo rfl store
  | declined change rest job error store todo answer applied => exact passes todo rfl store
  | changed change rest job next store todo answer applied =>
    refine ⟨?_, fun next running => ?_⟩
    · have saves : (Action.save next :: rest).filterMap Action.waits? = [] := by
        rw [List.filterMap_cons_none rfl]
        exact others todo
      rw [silent todo rfl, Worker.unanswered, saves, List.append_nil]
    · cases running
      exact others todo
  | saved job rest todo => exact passes todo rfl (JobStore.update job p.store).2

theorem work (before : Answered p notes) (away : Bool) (now : Timestamp) :
    Answered (p.work away now).1 (notes ++ (p.work away now).2) := by
  by_cases looking : ∃ id, p.worker = .looking id
  · obtain ⟨id, worker⟩ := looking
    rw [Processor.work, worker]
    exact before.lookUp worker
  by_cases running : ∃ run, p.worker = .running run
  · obtain ⟨run, worker⟩ := running
    rw [Processor.work, worker]
    exact before.advance worker (p.advance_spec run now)
  · obtain ⟨quiet, world, still, -, -⟩ :=
      p.work_idle away now (not_exists.mp looking) (not_exists.mp running)
    rw [quiet]
    refine before.idle rfl (congrArg Logged.log world) ?_ fun run runs => absurd runs (still run)
    rw [Worker.unanswered_idle still, Worker.unanswered_idle (not_exists.mp running)]

theorem step (before : Answered p notes) (event : Event) :
    Answered (p.step event).1 (notes ++ (p.step event).2) := by
  cases event with
  | work away now => exact before.work away now
  | enter id =>
    rw [Processor.step, enter]
    repeat' split
    all_goals exact before.idle rfl rfl rfl before.lone
  | leave =>
    rw [Processor.step, leave]
    split <;> exact before.idle rfl rfl rfl before.lone
  | start =>
    rw [Processor.step, start]
    split
    next absent =>
      exact before.idle rfl rfl (by rw [absent]; rfl) fun run running => by cases running
    next => exact before.idle rfl rfl rfl before.lone
  | expire =>
    rw [Processor.step, expire]
    split
    next run running => exact before.cancel running p.stopping
    next => exact before.idle rfl rfl rfl before.lone
  | shutdown =>
    rw [Processor.step, shutdown]
    split
    next => exact before.idle rfl rfl rfl before.lone
    next run running => exact before.cancel running true
    next => exact before.idle rfl rfl rfl before.lone
  | close =>
    rw [Processor.step, close]
    split <;> exact before.idle rfl rfl rfl before.lone

end Answered

end Processor

end TicketReports
