import TicketReports.Proofs.Processor.Calls
import TicketReports.Proofs.Processor.Renewal

set_option autoImplicit false

namespace TicketReports

def Answering {W : Type} [Stages W] (good : W → Prop) : Prop :=
  ∀ step left world, good world →
    (Stages.perform step left world).1 ≠ .waiting ∧ good (Stages.perform step left world).2.2

theorem Answering.logged {W : Type} [Stages W] {good : W → Prop} (answering : Answering good) :
    Answering fun logged : Logged W => good logged.world :=
  fun step left logged fine => answering step left logged.world fine

def Action.effort : Action → Nat
  | .record _ => 2
  | _ => 1

def Action.efforts : List Action → Nat
  | [] => 0
  | action :: rest => action.effort + efforts rest

def Run.effort (run : Run) : Nat := Action.efforts run.todo + if run.closing then 1 else 4

theorem Run.effort_begin (id : JobId) (number left : Nat) (kind : JobKind) :
    (Run.begin id number left kind).effort < 40 := by
  change Action.efforts (Action.plan kind) + 4 < 40
  cases kind <;> decide

theorem Run.effort_cons (run : Run) {action : Action} {rest : List Action}
    (todo : run.todo = action :: rest) :
    run.effort = action.effort + Run.effort { run with todo := rest } := by
  rw [Run.effort, todo, Action.efforts, Nat.add_assoc]
  rfl

theorem Run.effort_close (run : Run) (status : FinalStatus) : (run.close status).effort = 3 := rfl

namespace Processor

variable {σ W : Type}

/-- More steps than the worker takes until it listens with nothing on its way. -/
def effort (p : Processor σ W) : Nat :=
  match p.worker with
  | .listening => if p.mailbox.isSome then 43 else 0
  | .looking _ => 42
  | .running run => run.effort + 2
  | .finished _ => 2
  | .reopening _ => 1
  | _ => 0

theorem effort_running {p : Processor σ W} {run : Run} (running : p.worker = .running run) :
    p.effort = run.effort + 2 := by
  rw [effort, running]

variable [JobStore σ] [Stages W] {p q : Processor σ W} {notes : List Note} {now : Timestamp}

theorem Advance.stopping {run : Run} (advance : Advance p run now q notes) :
    q.stopping = p.stopping := by
  cases advance <;> rfl

theorem Advance.lowers {good : W → Prop} (answering : Answering good) (fine : good p.world)
    {run : Run} (running : p.worker = .running run) (quiet : run.Quiet)
    (advance : Advance p run now q notes) : good q.world ∧ q.effort < p.effort := by
  rw [effort_running running]
  have back : ∀ {step : Step} {result : StepEnd} {left : Nat} {world : W},
      Stages.perform step run.left p.world = (result, left, world) →
      result ≠ .waiting ∧ good world := by
    intro step result left world answer
    have answered := answering step run.left p.world fine
    rwa [answer] at answered
  have asked : ∀ {action : Action} {step : Step} {rest : List Action},
      run.todo = action :: rest → action.asks? = some step →
      run.effort = 1 + Run.effort { run with todo := rest } := by
    intro action step rest todo asks
    rw [run.effort_cons todo]
    cases action with
    | record _ => cases asks
    | _ => rfl
  -- A run that breaks off has no outcome yet, so that four steps were still ahead of it.
  have breaks : ∀ {action : Action} {step : Step} {rest : List Action},
      run.todo = action :: rest → action.asks? = some step → 3 + 2 < run.effort + 2 := by
    intro action step rest todo asks
    cases closing : run.closing with
    | true =>
      have silent := quiet closing action (by rw [todo]; exact List.mem_cons_self)
      cases asks.symm.trans silent
    | false =>
      rw [asked todo asks, Run.effort, closing]
      change 3 + 2 < 1 + (_ + 4) + 2
      omega
  cases advance with
  | retire spent closing =>
    refine ⟨fine, ?_⟩
    rw [Run.effort, closing]
    change 2 < _ + 1 + 2
    omega
  | succeed spent working =>
    refine ⟨fine, ?_⟩
    rw [effort_running rfl, Run.effort_close, Run.effort, working]
    change 3 + 2 < _ + 4 + 2
    omega
  | done action step rest left world todo asks answer =>
    refine ⟨(back answer).2, ?_⟩
    rw [asked todo asks, effort_running rfl]
    change Run.effort { run with todo := rest } + 2 < _
    omega
  | wait action step rest left world todo asks answer => exact absurd rfl (back answer).1
  | fail action step rest left world error todo asks answer =>
    exact ⟨(back answer).2, breaks todo asks⟩
  | panic action step rest left world detail todo asks answer =>
    exact ⟨(back answer).2, breaks todo asks⟩
  | missing change rest error store todo answer =>
    refine ⟨fine, ?_⟩
    rw [run.effort_cons todo, effort_running rfl, Action.effort]
    omega
  | declined change rest job error store todo answer applied =>
    refine ⟨fine, ?_⟩
    rw [run.effort_cons todo, effort_running rfl, Action.effort]
    omega
  | changed change rest job next store todo answer applied =>
    refine ⟨fine, ?_⟩
    have saves : Run.effort { run with todo := .save next :: rest } =
        1 + Run.effort { run with todo := rest } :=
      Run.effort_cons { run with todo := .save next :: rest } rfl
    rw [run.effort_cons todo, effort_running rfl, saves, Action.effort]
    omega
  | saved job rest todo =>
    refine ⟨fine, ?_⟩
    rw [run.effort_cons todo, effort_running rfl]
    change _ < 1 + _ + 2
    omega

theorem work_lowers {good : W → Prop} (answering : Answering good) (fine : good p.world)
    (admission : Admission p notes) (free : p.free = true) (going : p.stopping = false)
    (started : p.worker.started = true)
    (busy : ¬(p.worker = .listening ∧ p.mailbox = none)) :
    good (p.work false now).1.world ∧ (p.work false now).1.stopping = false ∧
      (p.work false now).1.effort < p.effort := by
  unfold work
  cases worker : p.worker with
  | listening =>
    obtain ⟨id, sent⟩ : ∃ id, p.mailbox = some id :=
      Option.ne_none_iff_exists'.mp fun empty => busy ⟨worker, empty⟩
    have received : p.listen false = { p with mailbox := none, worker := .looking id } := by
      simp [listen, sent]
    rw [received]
    refine ⟨fine, going, ?_⟩
    simp [effort, worker, sent]
  | looking id =>
    refine ⟨fine, going, ?_⟩
    have begins := Run.effort_begin id (p.runs + 1) (if p.stopping then 0 else p.timeLimit)
    have before : p.effort = 42 := by rw [effort, worker]
    rw [before, effort_running rfl]
    exact Nat.add_lt_add_right (begins _) 2
  | running run =>
    have advance := p.advance_spec run now
    have lowers := advance.lowers answering fine worker (admission.quiet run worker)
    exact ⟨lowers.1, advance.stopping.trans going, lowers.2⟩
  | finished id =>
    rw [going]
    refine ⟨fine, rfl, ?_⟩
    simp [effort, worker]
  | reopening id =>
    have empty := admission.empty (by rw [worker]; rfl)
    have opened : p.setReady true .listening = { p with ready := true, worker := .listening } :=
      if_pos free
    rw [opened]
    refine ⟨fine, going, ?_⟩
    simp [effort, worker, empty]
  | leaving =>
    cases going.symm.trans (admission.departing (by rw [worker]; rfl))
  | stopped =>
    cases going.symm.trans (admission.departing (by rw [worker]; rfl))
  | absent => simp [worker, Worker.started] at started
  | surveying => simp [worker, Worker.started] at started
  | reclaiming stranded => simp [worker, Worker.started] at started
  | opening => simp [worker, Worker.started] at started

/-- Every job on its way is run to its end, and admission is open again. -/
theorem completes {good : W → Prop} (answering : Answering good) (fine : good p.world)
    (admission : Admission p notes) (free : p.free = true) (going : p.stopping = false)
    (started : p.worker.started = true) (now : Timestamp) : ∃ count,
      (p.steps (Event.works count now)).1.worker = .listening ∧
        (p.steps (Event.works count now)).1.ready = true ∧
        (p.steps (Event.works count now)).1.pending = [] := by
  -- The induction is on the effort, which bounds the worker's steps.
  induction bound : p.effort using Nat.strongRecOn generalizing p notes with
  | ind bound ih =>
    by_cases busy : p.worker = .listening ∧ p.mailbox = none
    · obtain ⟨listening, empty⟩ := busy
      have vacant : p.occupants = [] := by
        rw [occupants, listening, empty]
        rfl
      have idle : p.pending = [] := by
        rw [pending, listening, empty]
        rfl
      refine ⟨0, listening, ?_, idle⟩
      cases ready : p.ready with
      | true => exact ready
      | false =>
        have shut : (p.free && p.ready) = false := by rw [ready, Bool.and_false]
        exact absurd vacant (admission.taken started going shut)
    · obtain ⟨good', going', less⟩ := work_lowers answering fine admission free going started busy
      have free' : (p.work false now).1.free = true := by
        rw [Processor.free, (p.work_spec false now).apart.1]
        exact free
      obtain ⟨count, settled⟩ := ih _ (bound ▸ less) good' (admission.work false now) free' going'
        (p.step_started (.work false now) started) rfl
      exact ⟨count + 1, settled⟩

end Processor

end TicketReports
