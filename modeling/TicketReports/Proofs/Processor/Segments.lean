import TicketReports.Pipeline.Scripted
import TicketReports.Proofs.Processor.Completion

set_option autoImplicit false

namespace TicketReports

structure Segment where
  id : JobId
  kind : JobKind
  calls : List (Step × StepEnd)
  status : FinalStatus

namespace Segment

def entry (segment : Segment) : JobId × JobKind := (segment.id, segment.kind)

def successes (steps : List Step) : List (Step × StepEnd) := steps.map fun step => (step, .done)

/-- The run called its steps in order, either all of them with success, or up to the first that did
not succeed; and the status says which. -/
def Played (segment : Segment) : Prop :=
  (segment.calls = successes segment.kind.steps ∧ segment.status = .success) ∨
    ∃ made step rest result,
      segment.kind.steps = made ++ step :: rest ∧
      segment.calls = successes made ++ [(step, result)] ∧
      ((∃ error, result = .failed error ∧ segment.status = .error error.message) ∨
        ∃ detail text, result = .panicked detail ∧
          segment.status = .error ("job run aborted" ++ text))

def succeeded (segment : Segment) : Bool := segment.calls.all fun call => call.2 == .done

theorem succeeded_of_successes {segment : Segment} {steps : List Step}
    (calls : segment.calls = successes steps) : segment.succeeded = true := by
  simp [succeeded, calls, successes]

theorem not_succeeded_of_broken {segment : Segment} {made : List (Step × StepEnd)} {step : Step}
    {result : StepEnd} (calls : segment.calls = made ++ [(step, result)])
    (broken : result ≠ .done) : segment.succeeded = false := by
  simp [succeeded, calls, broken]

end Segment

theorem JobKind.steps_eq (kind : JobKind) :
    kind.steps = [.forgetUsers, .forgetTickets, .channels, .users, .tickets] ++
      kind.audiences.map .report ++ kind.audiences.map .mail := by
  simp [JobKind.steps, Phase.all, JobKind.stepsOf]

theorem Segment.Played.inOrder {segment : Segment} (played : segment.Played) :
    segment.calls ≠ [] ∧ segment.calls.map Prod.fst <+: segment.kind.steps := by
  rcases played with ⟨calls, _⟩ | ⟨made, step, rest, result, plan, calls, _⟩
  · rw [calls]
    exact ⟨by simp [Segment.successes, JobKind.steps],
      by simp [Segment.successes, Function.comp_def]⟩
  · rw [calls, plan]
    refine ⟨by simp, rest, ?_⟩
    simp [Segment.successes, Function.comp_def]

theorem Run.aborted_text (run : Run) (detail : String) :
    ∃ text, run.aborted detail = .error ("job run aborted" ++ text) := by
  refine ⟨": task " ++ toString run.number ++ " panicked with message " ++ Text.quoted detail, ?_⟩
  rw [Run.aborted]
  simp only [← String.append_assoc]
  rfl

namespace Action

def steps (todo : List Action) : List Step := todo.filterMap asks?

theorem steps_performs (steps : List Step) : Action.steps (steps.map .perform) = steps := by
  induction steps with
  | nil => rfl
  | cons step rest ih => exact congrArg _ ih

theorem steps_append (first later : List Action) :
    steps (first ++ later) = steps first ++ steps later := List.filterMap_append

theorem steps_phase (kind : JobKind) (phase : Phase) :
    steps (ofPhase kind phase) = kind.stepsOf phase := by
  rw [ofPhase, List.cons_append, steps, List.filterMap_cons_none rfl, ← steps, steps_append,
    steps_performs]
  exact List.append_nil _

theorem steps_plan (kind : JobKind) : steps (plan kind) = kind.steps := by
  have phases : ∀ phases : List Phase,
      steps (phases.flatMap (ofPhase kind)) = phases.flatMap kind.stepsOf := by
    intro phases
    induction phases with
    | nil => rfl
    | cons phase phases ih =>
      rw [List.flatMap_cons, List.flatMap_cons, steps_append, steps_phase, ih]
  exact congrArg (fun later => Step.forgetUsers :: Step.forgetTickets :: later) (phases Phase.all)

end Action

def Event.offers : Event → Bool
  | .enter _ => true
  | _ => false

namespace Processor

variable {σ W : Type}

section Strides

variable [JobStore σ] [Stages W] {p q : Processor σ (Logged W)}

/-- How a run without outcome fares: it goes on with its plan, or gets its outcome and is counted.
`before` are the calls that were made before the run. -/
inductive Stride (p q : Processor σ (Logged W)) (run : Run) (kind : JobKind)
    (before : List (Step × StepEnd)) : Prop
  | goesOn (next : Run) (made : List Step) (worker : q.worker = .running next)
      (same : next.id = run.id) (working : next.closing = false)
      (plan : kind.steps = made ++ Action.steps next.todo) (counters : q.counters = p.counters)
      (log : q.world.log = before ++ Segment.successes made)
  | ends (left : Nat) (segment : Segment) (entry : segment.entry = (run.id, kind))
      (played : segment.Played)
      (worker : q.worker = .running ({ run with left }.close segment.status))
      (store : q.store = p.store)
      (counters : q.counters =
        if segment.succeeded then p.counters.countSucceeded else p.counters.countFailed)
      (log : q.world.log = before ++ segment.calls)

theorem Advance.stride {run : Run} {now : Timestamp} {notes : List Note} {kind : JobKind}
    {made : List Step} {before : List (Step × StepEnd)} (advance : Advance p run now q notes)
    (working : run.closing = false) (plan : kind.steps = made ++ Action.steps run.todo)
    (log : p.world.log = before ++ Segment.successes made) : Stride p q run kind before := by
  -- What is called last stands at the end of the log.
  have called : ∀ {step : Step} {result : StepEnd} {left : Nat} {world : Logged W},
      Stages.perform step run.left p.world = (result, left, world) → result ≠ .waiting →
      world.log = before ++ (Segment.successes made ++ [(step, result)]) := by
    intro step result left world answer back
    rw [Logged.log_perform answer, if_neg back, log, List.append_assoc]
  have asked : ∀ {action : Action} {step : Step} {rest : List Action},
      run.todo = action :: rest → action.asks? = some step →
      kind.steps = made ++ step :: Action.steps rest := by
    intro action step rest todo asks
    rw [plan, todo, Action.steps, List.filterMap_cons_some asks]
    rfl
  have silent : ∀ {action : Action} {rest : List Action},
      run.todo = action :: rest → action.asks? = none →
      kind.steps = made ++ Action.steps rest := by
    intro action rest todo asks
    rw [plan, todo, Action.steps, List.filterMap_cons_none asks]
    rfl
  cases advance with
  | retire spent closing => cases working.symm.trans closing
  | succeed spent _ =>
    rw [spent] at plan
    have whole : kind.steps = made := plan.trans (List.append_nil _)
    let segment : Segment := ⟨run.id, kind, Segment.successes made, .success⟩
    have fine : segment.succeeded = true := Segment.succeeded_of_successes rfl
    refine .ends run.left segment rfl (.inl ⟨by rw [whole], rfl⟩) rfl rfl ?_ log
    rw [fine]
    rfl
  | done action step rest left world todo asks answer =>
    refine .goesOn { run with left, todo := rest } (made ++ [step]) rfl rfl working ?_ rfl ?_
    · rw [asked todo asks, List.append_assoc]
      rfl
    · rw [Segment.successes, List.map_append]
      exact called answer (by simp)
  | wait action step rest left world todo asks answer =>
    refine .goesOn { run with left, todo := .resume step :: rest } made rfl rfl working
      (asked todo asks) rfl ?_
    exact ((Logged.log_perform answer).trans (if_pos rfl)).trans log
  | fail action step rest left world error todo asks answer =>
    let segment : Segment :=
      ⟨run.id, kind, Segment.successes made ++ [(step, .failed error)], .error error.message⟩
    have broken : segment.succeeded = false := Segment.not_succeeded_of_broken rfl (by simp)
    refine .ends left segment rfl
      (.inr ⟨made, step, _, _, asked todo asks, rfl, .inl ⟨error, rfl, rfl⟩⟩) rfl rfl ?_
      (called answer (by simp))
    rw [broken]
    rfl
  | panic action step rest left world detail todo asks answer =>
    obtain ⟨text, aborted⟩ := run.aborted_text detail
    let segment : Segment :=
      ⟨run.id, kind, Segment.successes made ++ [(step, .panicked detail)], run.aborted detail⟩
    have broken : segment.succeeded = false := Segment.not_succeeded_of_broken rfl (by simp)
    refine .ends left segment rfl
      (.inr ⟨made, step, _, _, asked todo asks, rfl, .inr ⟨detail, text, rfl, aborted⟩⟩) rfl rfl ?_
      (called answer (by simp))
    rw [broken]
    rfl
  | missing change rest error store todo answer =>
    exact .goesOn { run with todo := rest } made rfl rfl working (silent todo rfl) rfl log
  | declined change rest job error store todo answer applied =>
    exact .goesOn { run with todo := rest } made rfl rfl working (silent todo rfl) rfl log
  | changed change rest job next store todo answer applied =>
    -- What was loaded and changed is saved next, which asks for no step either.
    have later : kind.steps = made ++ Action.steps rest := silent todo rfl
    exact .goesOn { run with todo := .save next :: rest } made rfl rfl working later rfl log
  | saved job rest todo =>
    exact .goesOn { run with todo := rest } made rfl rfl working (silent todo rfl) rfl log

end Strides

variable [JobStore σ] [Steady σ]

open Steady

/-- The ways a processor comes to a state. Others may do with the store what they like, except that
an accepted job stays until it is finished. -/
inductive Course [Stages W] (timeLimit : Nat) (store : σ) (world : W) :
    Processor σ (Logged W) → List Note → List (JobId × JobKind) → List JobId → Prop
  | new : Course timeLimit store world (.new timeLimit store { world }) [] [] []
  | step {p : Processor σ (Logged W)} {notes : List Note} {jobs : List (JobId × JobKind)}
      {gone : List JobId} (past : Course timeLimit store world p notes jobs gone) (event : Event)
      (calm : ∀ id, event = .enter id → (p.enter id).1 = p) :
      Course timeLimit store world (p.step event).1 (notes ++ (p.step event).2) jobs gone
  | accept {p : Processor σ (Logged W)} {notes : List Note} {jobs : List (JobId × JobKind)}
      {gone : List JobId} (past : Course timeLimit store world p notes jobs gone) (id : JobId)
      (job : Job) (free : p.free = true)
      (fits : p.enter id = ({ p with mailbox := some id, caller := some id }, []))
      (held : peek id p.store = some job) (running : job.isRunning = true)
      (new : id ∉ jobs.map Prod.fst) :
      Course timeLimit store world { p with mailbox := some id, caller := some id } notes
        (jobs ++ [(id, job.kind)]) gone
  | others {p : Processor σ (Logged W)} {notes : List Note} {jobs : List (JobId × JobKind)}
      {gone : List JobId} (past : Course timeLimit store world p notes jobs gone) (after : σ)
      (left : List JobId)
      (kept : ∀ id ∈ jobs.map Prod.fst, peek id after = peek id p.store ∨
        id ∈ left ∧ peek id after = none ∧
          ∃ job, peek id p.store = some job ∧ job.isRunning = false) :
      Course timeLimit store world { p with store := after } notes jobs (gone ++ left)

/-- Where the worker stands after its past runs, and the run that it has begun. -/
inductive Stand (p : Processor σ (Logged W)) (past : List Segment) :
    List (JobId × JobKind) → Prop
  | between (idle : ∀ run, p.worker ≠ .running run)
      (log : p.world.log = past.flatMap Segment.calls) : Stand p past []
  | working (run : Run) (kind : JobKind) (made : List Step) (running : p.worker = .running run)
      (working : run.closing = false) (plan : kind.steps = made ++ Action.steps run.todo)
      (log : p.world.log = past.flatMap Segment.calls ++ Segment.successes made) :
      Stand p past [(run.id, kind)]
  | closing (run : Run) (segment : Segment) (running : p.worker = .running run)
      (mine : segment.id = run.id) (closing : run.closing = true) (played : segment.Played)
      (owes : run.Owes (peek run.id p.store) (some segment.status))
      (log : p.world.log = past.flatMap Segment.calls ++ segment.calls) :
      Stand p past [segment.entry]

structure Ledger (p : Processor σ (Logged W)) (notes : List Note) (jobs : List (JobId × JobKind))
    (gone : List JobId) (past : List Segment) (current waiting : List (JobId × JobKind)) :
    Prop where
  admission : Admission p notes
  serves : p.Serves
  unstarted : p.worker.started = false → jobs = []
  distinct : (jobs.map Prod.fst).Nodup
  split : jobs = past.map Segment.entry ++ current ++ waiting
  begun : Note.beginnings notes = (past.map Segment.entry ++ current).map Prod.fst
  queued : waiting.map Prod.fst = p.pending
  stored : ∀ entry ∈ jobs, (∃ job, peek entry.1 p.store = some job ∧ job.kind = entry.2) ∨
    entry.1 ∈ gone ∧ peek entry.1 p.store = none
  stands : Stand p past current
  played : ∀ segment ∈ past, segment.Played
  told : ∀ segment ∈ past, ∀ job, peek segment.id p.store = some job →
    job.outcome = some segment.status

namespace Stand

variable {p q : Processor σ (Logged W)} {past : List Segment} {current : List (JobId × JobKind)}

theorem idle (stand : Stand p past current) (idle : ∀ run, p.worker ≠ .running run) :
    current = [] ∧ p.world.log = past.flatMap Segment.calls := by
  cases stand with
  | between _ log => exact ⟨rfl, log⟩
  | working run _ _ running _ _ _ => exact absurd running (idle run)
  | closing run _ running _ _ _ _ _ => exact absurd running (idle run)

theorem runs (stand : Stand p past current) {run : Run} (running : p.worker = .running run) :
    ∃ kind, current = [(run.id, kind)] := by
  cases stand with
  | between idle _ => exact absurd running (idle run)
  | working other kind _ runs _ _ _ =>
    cases running.symm.trans runs
    exact ⟨kind, rfl⟩
  | closing other segment runs mine _ _ _ _ =>
    cases running.symm.trans runs
    exact ⟨segment.kind, by rw [Segment.entry, mine]⟩

theorem still (stand : Stand p past current) (worker : q.worker = p.worker)
    (log : q.world.log = p.world.log)
    (kept : ∀ run, p.worker = .running run →
      Job.Kept (peek run.id p.store) (peek run.id q.store)) : Stand q past current := by
  cases stand with
  | between idle logged =>
    exact .between (fun run running => idle run (worker.symm.trans running)) (log.trans logged)
  | working run kind made running working plan logged =>
    exact .working run kind made (worker.trans running) working plan (log.trans logged)
  | closing run segment running mine closing played owes logged =>
    exact .closing run segment (worker.trans running) mine closing played
      (owes.kept (kept run running)) (log.trans logged)

theorem cancel (stand : Stand p past current) {run : Run} (running : p.worker = .running run)
    (stopping : Bool) : Stand { p with stopping, worker := .running run.cancel } past current := by
  cases stand with
  | between idle _ => exact absurd running (idle run)
  | working other kind made runs working plan logged =>
    cases running.symm.trans runs
    exact .working run.cancel kind made rfl working plan logged
  | closing other segment runs mine closing played owes logged =>
    cases running.symm.trans runs
    exact .closing run.cancel segment rfl mine closing played owes.cancel logged

theorem works [Stages W] {later : List Note} {run : Run} {kind : JobKind} {made : List Step}
    {outcome : Option FinalStatus} (owes : run.Owes (peek run.id p.store) outcome)
    (working : run.closing = false) (plan : kind.steps = made ++ Action.steps run.todo)
    (log : p.world.log = past.flatMap Segment.calls ++ Segment.successes made) {now : Timestamp}
    (advance : Advance p run now q later) : Stand q past [(run.id, kind)] := by
  cases advance.stride working plan log with
  | goesOn next made worker same working plan _ log =>
    rw [← same]
    exact .working next kind made worker working plan log
  | ends left segment entry played worker store _ log =>
    have mine : segment.id = run.id := congrArg Prod.fst entry
    rw [← entry]
    refine .closing _ segment worker mine rfl played ?_ log
    rw [store]
    exact (owes.settles working left segment.status).2

end Stand

namespace Ledger

variable {p q : Processor σ (Logged W)} {notes later : List Note}
  {jobs current waiting : List (JobId × JobKind)} {gone : List JobId} {past : List Segment}

theorem past_mem (ledger : Ledger p notes jobs gone past current waiting) {segment : Segment}
    (member : segment ∈ past) : segment.entry ∈ jobs := by
  rw [ledger.split]
  exact List.mem_append_left _ (List.mem_append_left _ (List.mem_map_of_mem member))

theorem occupant (ledger : Ledger p notes jobs gone past current waiting) {id : JobId}
    (on : id ∈ p.occupants) : id ∈ jobs.map Prod.fst := by
  have begun := ledger.begun
  have queued := ledger.queued
  rw [ledger.split, List.map_append, ← begun, queued]
  rw [occupants, Worker.held?_eq] at on
  rcases List.mem_append.mp on with held | sent
  · rcases Option.or_eq_some_iff.mp (Option.mem_toList.mp held) with occupied | ⟨_, awaited⟩
    · exact List.mem_append_left _ (ledger.admission.begun id occupied)
    · exact List.mem_append_right _ (List.mem_append_left _ (Option.mem_toList.mpr awaited))
  · exact List.mem_append_right _ (List.mem_append_right _ sent)

theorem pass (ledger : Ledger p notes jobs gone past current waiting)
    (admission : Admission q (notes ++ later)) (serves : q.Serves)
    (unstarted : q.worker.started = false → jobs = [])
    (quiet : Note.beginnings later = []) (pending : q.pending = p.pending)
    (same : ∀ id ∈ jobs.map Prod.fst, peek id q.store = peek id p.store)
    (stands : Stand q past current) :
    Ledger q (notes ++ later) jobs gone past current waiting := by
  refine ⟨admission, serves, unstarted, ledger.distinct, ledger.split, ?_, ?_, ?_, stands,
    ledger.played, ?_⟩
  · rw [Note.beginnings_append, quiet, List.append_nil]
    exact ledger.begun
  · exact ledger.queued.trans pending.symm
  · intro entry member
    rw [same entry.1 (List.mem_map_of_mem member)]
    exact ledger.stored entry member
  · intro segment member
    rw [same segment.id (List.mem_map_of_mem (ledger.past_mem member))]
    exact ledger.told segment member

theorem idles (ledger : Ledger p notes jobs gone past current waiting)
    (admission : Admission q (notes ++ [])) (serves : q.Serves)
    (idle : ∀ run, p.worker ≠ .running run) (still : ∀ run, q.worker ≠ .running run)
    (unstarted : q.worker.started = false → jobs = []) (pending : q.pending = p.pending)
    (log : q.world.log = p.world.log)
    (same : ∀ id ∈ jobs.map Prod.fst, peek id q.store = peek id p.store) :
    Ledger q (notes ++ []) jobs gone past current waiting := by
  obtain ⟨rfl, logged⟩ := ledger.stands.idle idle
  exact ledger.pass admission serves unstarted rfl pending same (.between still (log.trans logged))

theorem begins (ledger : Ledger p notes jobs gone past current waiting) {id : JobId}
    (looking : p.worker = .looking id) : ∃ current waiting,
      Ledger (p.lookUp id).1 (notes ++ (p.lookUp id).2) jobs gone past current waiting := by
  have idle : ∀ run, p.worker ≠ .running run := fun run running => by
    cases looking.symm.trans running
  obtain ⟨rfl, logged⟩ := ledger.stands.idle idle
  obtain ⟨job, held, running⟩ :=
    ledger.serves.waiting id (by simp [pending, looking, Worker.awaited?])
  have admission := ledger.admission.lookUp looking
  have serves := ledger.serves.lookUp looking
  obtain ⟨store, found⟩ : ∃ store, JobStore.get id p.store = (.ok job, store) :=
    ⟨_, Prod.ext (get_found held) rfl⟩
  have same : ∀ other, peek other store = peek other p.store := by
    intro other
    have kept := peek_get id other p.store
    rwa [found] at kept
  have queued := ledger.queued
  rw [pending, looking] at queued
  cases waiting with
  | nil => cases queued
  | cons entry rest =>
    obtain ⟨first, kind⟩ := entry
    obtain ⟨rfl, others⟩ := List.cons.inj queued
    obtain rfl : job.kind = kind := by
      have member : (first, kind) ∈ jobs := by
        rw [ledger.split]
        exact List.mem_append_right _ List.mem_cons_self
      rcases ledger.stored _ member with ⟨other, has, kind⟩ | ⟨_, absent⟩
      · cases held.symm.trans has
        exact kind
      · cases held.symm.trans absent
    simp only [Processor.lookUp, found] at admission serves ⊢
    refine ⟨[(first, job.kind)], rest, admission, serves, ?_, ledger.distinct, ?_, ?_, others, ?_,
      ?_, ledger.played, ?_⟩
    · exact fun unstarted => by cases unstarted
    · rw [ledger.split, List.append_nil, List.append_assoc]
      rfl
    · rw [Note.beginnings_append, ledger.begun, List.append_nil, List.map_append]
      rfl
    · intro entry member
      dsimp only
      rw [same]
      exact ledger.stored entry member
    · refine .working (Run.begin first (p.runs + 1) _ job.kind) job.kind [] rfl rfl ?_ ?_
      · exact (Action.steps_plan job.kind).symm
      · rw [Segment.successes, List.map_nil, List.append_nil]
        exact logged
    · intro segment member
      dsimp only
      rw [same]
      exact ledger.told segment member

theorem proceeds [Stages W] (ledger : Ledger p notes jobs gone past current waiting) {run : Run}
    (running : p.worker = .running run) {now : Timestamp}
    (advance : Advance p run now q later) (admission : Admission q (notes ++ later))
    (serves : q.Serves) {ended : List Segment} {going : List (JobId × JobKind)}
    (entries : (past ++ ended).map Segment.entry ++ going = past.map Segment.entry ++ current)
    (stands : Stand q (past ++ ended) going) (played : ∀ segment ∈ ended, segment.Played)
    (told : ∀ segment ∈ ended, ∀ job, peek segment.id q.store = some job →
      job.outcome = some segment.status) :
    Ledger q (notes ++ later) jobs gone (past ++ ended) going waiting := by
  obtain ⟨outcome, owes⟩ := ledger.serves.owing run running
  have recorded := recorded owes advance
  obtain ⟨kind, mine⟩ := ledger.stands.runs running
  obtain rfl := mine
  have foreign : ∀ segment ∈ past, segment.id ≠ run.id := by
    intro segment member same
    have distinct := ledger.distinct
    rw [ledger.split, List.map_append, List.map_append] at distinct
    have apart := (List.nodup_append.mp (List.nodup_append.mp distinct).1).2.2
    refine apart segment.id ?_ run.id (List.mem_singleton_self _) same
    exact List.mem_map_of_mem (List.mem_map_of_mem member)
  have started : q.worker.started = true ∧ q.worker.awaited? = none := by
    rcases recorded.goesOn with ⟨finished, _⟩ | ⟨next, _, goesOn, _⟩
    · rw [finished]
      exact ⟨rfl, rfl⟩
    · rw [goesOn]
      exact ⟨rfl, rfl⟩
  refine ⟨admission, serves, ?_, ledger.distinct, ?_, ?_, ?_, ?_, stands, ?_, ?_⟩
  · intro unstarted
    cases started.1.symm.trans unstarted
  · rw [entries]
    exact ledger.split
  · rw [Note.beginnings_append, advance.beginnings, List.append_nil, entries]
    exact ledger.begun
  · rw [ledger.queued, pending, pending, running, started.2, recorded.mailbox]
    rfl
  · intro entry member
    have before := ledger.stored entry member
    by_cases same : entry.1 = run.id
    · rw [same] at before ⊢
      rcases recorded.own with kept | ⟨job, next, held, _, saved, kind⟩
      · rw [kept]
        exact before
      · rcases before with ⟨other, has, known⟩ | ⟨_, absent⟩
        · cases held.symm.trans has
          exact .inl ⟨next, saved, kind.trans known⟩
        · cases held.symm.trans absent
    · rw [recorded.others entry.1 same]
      exact before
  · intro segment member
    rcases List.mem_append.mp member with old | new
    · exact ledger.played segment old
    · exact played segment new
  · intro segment member
    rcases List.mem_append.mp member with old | new
    · rw [recorded.others segment.id (foreign segment old)]
      exact ledger.told segment old
    · exact told segment new

theorem tells [Stages W] (ledger : Ledger p notes jobs gone past current waiting) {run : Run}
    {segment : Segment} (running : p.worker = .running run) (mine : segment.id = run.id)
    (current_eq : current = [segment.entry]) (played : segment.Played)
    (owes : run.Owes (peek run.id p.store) (some segment.status))
    (log : p.world.log = past.flatMap Segment.calls ++ segment.calls) {now : Timestamp}
    (advance : Advance p run now q later) (admission : Admission q (notes ++ later))
    (serves : q.Serves) : ∃ past current waiting,
      Ledger q (notes ++ later) jobs gone past current waiting := by
  have recorded := recorded owes advance
  have world : q.world = p.world := recorded.calls.resolve_left (fun none => by cases none)
  rcases recorded.goesOn with
    ⟨finished, status, same, told⟩ | ⟨next, known, goesOn, same, still, kept⟩
  · cases same
    refine ⟨past ++ [segment], [], waiting, ledger.proceeds running advance admission serves ?_
      (.between ?_ ?_) ?_ ?_⟩
    · rw [current_eq, List.map_append, List.append_nil]
      rfl
    · intro other runs
      cases finished.symm.trans runs
    · rw [world, log, List.flatMap_append, List.flatMap_singleton]
    · exact fun other member => List.mem_singleton.mp member ▸ played
    · intro other member
      rw [List.mem_singleton.mp member, mine]
      exact told
  · obtain rfl := kept.resolve_left (fun none => by cases none)
    refine ⟨past ++ [], [segment.entry], waiting,
      ledger.proceeds running advance admission serves ?_ ?_ ?_ ?_⟩
    · rw [current_eq, List.append_nil]
    · rw [List.append_nil]
      refine .closing next segment goesOn (mine.trans same.symm) ?_ played (same ▸ still) ?_
      · exact still.closing_of_known
      · rw [world, log]
    · exact fun other member => by cases member
    · exact fun other member => by cases member

theorem advances [Stages W] (ledger : Ledger p notes jobs gone past current waiting) {run : Run}
    (running : p.worker = .running run) (now : Timestamp) : ∃ past current waiting,
      Ledger (p.advance run now).1 (notes ++ (p.advance run now).2) jobs gone past current
        waiting := by
  have admission := ledger.admission.advance running now
  have serves := ledger.serves.advance ledger.admission running now
  have advance := p.advance_spec run now
  obtain ⟨outcome, owes⟩ := ledger.serves.owing run running
  cases ledger.stands with
  | between idle _ => exact absurd running (idle run)
  | working other kind made runs working plan log =>
    cases running.symm.trans runs
    have stands : Stand (p.advance run now).1 (past ++ []) [(run.id, kind)] := by
      rw [List.append_nil]
      exact .works owes working plan log advance
    refine ⟨past ++ [], [(run.id, kind)], waiting,
      ledger.proceeds running advance admission serves ?_ stands ?_ ?_⟩
    · rw [List.append_nil]
    · exact fun other member => by cases member
    · exact fun other member => by cases member
  | closing other segment runs mine closing played known log =>
    cases running.symm.trans runs
    exact ledger.tells running mine rfl played known log advance admission serves

theorem works [Stages W] (ledger : Ledger p notes jobs gone past current waiting) (away : Bool)
    (now : Timestamp) : ∃ past current waiting,
      Ledger (p.work away now).1 (notes ++ (p.work away now).2) jobs gone past current waiting := by
  by_cases looking : ∃ id, p.worker = .looking id
  · obtain ⟨id, worker⟩ := looking
    rw [Processor.work, worker]
    obtain ⟨current, waiting, begun⟩ := ledger.begins worker
    exact ⟨past, current, waiting, begun⟩
  by_cases running : ∃ run, p.worker = .running run
  · obtain ⟨run, worker⟩ := running
    rw [Processor.work, worker]
    exact ledger.advances worker now
  · have admission := ledger.admission.work away now
    obtain ⟨quiet, world, still, pending, store⟩ :=
      p.work_idle away now (not_exists.mp looking) (not_exists.mp running)
    rw [quiet] at admission ⊢
    refine ⟨past, current, waiting, ledger.idles admission
      (ledger.serves.work ledger.admission away now) (not_exists.mp running) still ?_ pending
      (congrArg Logged.log world) fun id member => ?_⟩
    · intro unstarted
      refine ledger.unstarted (Bool.eq_false_iff.mpr fun before => ?_)
      cases (p.step_started (.work away now) before).symm.trans unstarted
    · cases started : p.worker.started with
      | true => rw [store started]
      | false =>
        rw [ledger.unstarted started] at member
        cases member

theorem passes [Stages W] (ledger : Ledger p notes jobs gone past current waiting) {event : Event}
    (idle : ∀ away now, event ≠ .work away now) (serves : (p.step event).1.Serves)
    (pending : (p.step event).1.pending = p.pending)
    (stands : Stand (p.step event).1 past current) :
    Ledger (p.step event).1 (notes ++ (p.step event).2) jobs gone past current waiting := by
  obtain ⟨store, quiet⟩ := p.step_beside idle
  refine ledger.pass (ledger.admission.step event) serves (fun unstarted => ?_) quiet pending
    (fun id _ => congrArg (peek id) store) stands
  refine ledger.unstarted (Bool.eq_false_iff.mpr fun before => ?_)
  cases (p.step_started event before).symm.trans unstarted

theorem stays [Stages W] (ledger : Ledger p notes jobs gone past current waiting) {event : Event}
    (idle : ∀ away now, event ≠ .work away now) (serves : (p.step event).1.Serves)
    (worker : (p.step event).1.worker = p.worker)
    (mailbox : (p.step event).1.mailbox = p.mailbox)
    (log : (p.step event).1.world.log = p.world.log) :
    Ledger (p.step event).1 (notes ++ (p.step event).2) jobs gone past current waiting := by
  refine ledger.passes idle serves ?_ (ledger.stands.still worker log fun run _ => ?_)
  · rw [pending, pending, worker, mailbox]
  · exact .inl (congrArg (peek run.id) (p.step_store idle))

theorem calledOff [Stages W] (ledger : Ledger p notes jobs gone past current waiting)
    {event : Event} (idle : ∀ away now, event ≠ .work away now)
    (serves : (p.step event).1.Serves) {run : Run}
    (running : p.worker = .running run) (stopping : Bool)
    (next : (p.step event).1 = { p with stopping, worker := .running run.cancel }) :
    Ledger (p.step event).1 (notes ++ (p.step event).2) jobs gone past current waiting := by
  refine ledger.passes idle serves ?_ ?_
  · rw [next, pending, pending, running]
    rfl
  · rw [next]
    exact ledger.stands.cancel running stopping

theorem step [Stages W] (ledger : Ledger p notes jobs gone past current waiting) (event : Event)
    (calm : ∀ id, event = .enter id → (p.enter id).1 = p) : ∃ past current waiting,
      Ledger (p.step event).1 (notes ++ (p.step event).2) jobs gone past current waiting := by
  have serves : event.byCaller = false → (p.step event).1.Serves :=
    ledger.serves.step ledger.admission event
  by_cases works : ∃ away now, event = .work away now
  · obtain ⟨away, now, rfl⟩ := works
    exact ledger.works away now
  have idle : ∀ away now, event ≠ .work away now :=
    fun away now same => works ⟨away, now, same⟩
  cases event with
  | work away now => exact absurd rfl (idle away now)
  | enter id =>
    have same : (p.step (.enter id)).1 = p := calm id rfl
    refine ⟨past, current, waiting, ledger.stays idle (same.symm ▸ ledger.serves) ?_ ?_ ?_⟩
    all_goals rw [same]
  | leave =>
    refine ⟨past, current, waiting, ledger.stays idle ledger.serves.leave ?_ ?_ ?_⟩
    all_goals
      rw [Processor.step, Processor.leave]
      split <;> rfl
  | close =>
    refine ⟨past, current, waiting, ledger.stays idle (serves rfl) ?_ ?_ ?_⟩
    all_goals
      rw [Processor.step, close]
      split <;> rfl
  | start =>
    by_cases absent : p.worker = .absent
    · have next : (p.step .start).1 = { p with worker := .surveying } := by
        rw [Processor.step, start, absent]
      obtain ⟨rfl, log⟩ := ledger.stands.idle fun run running => by
        cases absent.symm.trans running
      refine ⟨past, [], waiting, ledger.passes idle (serves rfl) ?_ ?_⟩
      · rw [next, pending, pending, absent]
        rfl
      · rw [next]
        exact .between (fun run running => by cases running) log
    · have next : (p.step .start).1 = p := by
        rw [Processor.step, start]
        split
        next present => exact absurd present absent
        next => rfl
      refine ⟨past, current, waiting, ledger.stays idle (serves rfl) ?_ ?_ ?_⟩
      all_goals rw [next]
  | expire =>
    by_cases running : ∃ run, p.worker = .running run
    · obtain ⟨run, running⟩ := running
      refine ⟨past, current, waiting, ledger.calledOff idle (serves rfl) running p.stopping ?_⟩
      rw [Processor.step, expire, running]
    · have next : (p.step .expire).1 = p := by
        rw [Processor.step, expire]
        split
        next run runs => exact absurd ⟨run, runs⟩ running
        next => rfl
      refine ⟨past, current, waiting, ledger.stays idle (serves rfl) ?_ ?_ ?_⟩
      all_goals rw [next]
  | shutdown =>
    by_cases running : ∃ run, p.worker = .running run
    · obtain ⟨run, running⟩ := running
      refine ⟨past, current, waiting, ledger.calledOff idle (serves rfl) running true ?_⟩
      rw [Processor.step, shutdown, running]
    · refine ⟨past, current, waiting, ledger.stays idle (serves rfl) ?_ ?_ ?_⟩
      all_goals
        rw [Processor.step, shutdown]
        split
        next => rfl
        next run runs => exact absurd ⟨run, runs⟩ running
        next => rfl

theorem accept (ledger : Ledger p notes jobs gone past current waiting) {id : JobId} {job : Job}
    (free : p.free = true)
    (fits : p.enter id = ({ p with mailbox := some id, caller := some id }, []))
    (held : peek id p.store = some job) (running : job.isRunning = true)
    (new : id ∉ jobs.map Prod.fst) :
    Ledger { p with mailbox := some id, caller := some id } notes (jobs ++ [(id, job.kind)]) gone
      past current (waiting ++ [(id, job.kind)]) := by
  obtain ⟨ready, empty⟩ := enter_filled free fits
  have admission := ledger.admission.enter id
  have serves := ledger.serves.enter held running
  rw [fits] at admission serves
  rw [List.append_nil] at admission
  refine ⟨admission, serves, fun unstarted => ?_, ?_, ?_, ledger.begun, ?_, fun entry member => ?_,
    ledger.stands.still rfl rfl fun _ _ => .refl _, ledger.played, ledger.told⟩
  · cases ready.symm.trans (ledger.admission.unopened unstarted).1
  · rw [List.map_append, List.nodup_append]
    refine ⟨ledger.distinct, List.nodup_singleton _, fun other member single is => ?_⟩
    rw [List.map_singleton, List.mem_singleton] at is
    intro same
    rw [same, is] at member
    exact new member
  · rw [ledger.split, List.append_assoc]
  · rw [List.map_append, ledger.queued, pending, pending, empty]
    exact congrArg (· ++ [id]) (List.append_nil _)
  · rcases List.mem_append.mp member with old | fresh
    · exact ledger.stored entry old
    · rw [List.mem_singleton.mp fresh]
      exact .inl ⟨job, held, rfl⟩

theorem others (ledger : Ledger p notes jobs gone past current waiting) (after : σ)
    (left : List JobId)
    (kept : ∀ id ∈ jobs.map Prod.fst, peek id after = peek id p.store ∨
      id ∈ left ∧ peek id after = none ∧
        ∃ job, peek id p.store = some job ∧ job.isRunning = false) :
    Ledger { p with store := after } notes jobs (gone ++ left) past current waiting := by
  have keeps : ∀ id ∈ jobs.map Prod.fst, Job.Kept (peek id p.store) (peek id after) :=
    fun id member => (kept id member).imp_right And.right
  refine ⟨ledger.admission.aside after p.counters,
    ledger.serves.kept after fun id on => keeps id (ledger.occupant on), ledger.unstarted,
    ledger.distinct, ledger.split, ledger.begun, ledger.queued, fun entry member => ?_,
    ledger.stands.still rfl rfl fun run running => ?_, ledger.played,
    fun segment member job held => ?_⟩
  · have before := ledger.stored entry member
    rcases kept entry.1 (List.mem_map_of_mem member) with same | ⟨leaves, absent, _⟩
    · rw [same]
      exact before.imp_right fun left => ⟨List.mem_append_left _ left.1, left.2⟩
    · exact .inr ⟨List.mem_append_right _ leaves, absent⟩
  · refine keeps run.id (ledger.occupant ?_)
    simp [occupants, running, Worker.held?]
  · have kept := keeps segment.id (List.mem_map_of_mem (ledger.past_mem member))
    exact ledger.told segment member job (kept.eq held)

theorem new [Stages W] (timeLimit : Nat) (store : σ) (world : W) :
    Ledger (Processor.new timeLimit store ({ world } : Logged W)) [] [] [] [] [] [] :=
  ⟨.new timeLimit store _, ⟨nofun, nofun⟩, fun _ => rfl, List.nodup_nil, rfl, rfl, rfl, nofun,
    .between nofun rfl, nofun, nofun⟩

theorem reached [Stages W] {timeLimit : Nat} {store : σ} {world : W}
    (course : Course timeLimit store world p notes jobs gone) : ∃ past current waiting,
      Ledger p notes jobs gone past current waiting := by
  induction course with
  | new => exact ⟨[], [], [], .new timeLimit store world⟩
  | step _ event calm ih =>
    obtain ⟨past, current, waiting, ledger⟩ := ih
    exact ledger.step event calm
  | accept _ id job free fits held running new ih =>
    obtain ⟨past, current, waiting, ledger⟩ := ih
    exact ⟨past, current, _, ledger.accept free fits held running new⟩
  | others _ after left kept ih =>
    obtain ⟨past, current, waiting, ledger⟩ := ih
    exact ⟨past, current, waiting, ledger.others after left kept⟩

end Ledger

theorem Answered.reached [Stages W] {timeLimit : Nat} {store : σ} {world : W}
    {p : Processor σ (Logged W)} {notes : List Note} {jobs : List (JobId × JobKind)}
    {gone : List JobId} (course : Course timeLimit store world p notes jobs gone) :
    Answered p notes := by
  induction course with
  | new => exact .new timeLimit store world
  | step _ event _ ih => exact ih.step event
  | accept _ id job free fits held running new ih => exact ⟨ih.calls, ih.lone⟩
  | others _ after left kept ih => exact ⟨ih.calls, ih.lone⟩

/-- What can be said of a course: its accepted jobs are those of the past runs, of the run that was
begun last and of the runs to come. -/
structure Account [Stages W] (p : Processor σ (Logged W)) (notes : List Note)
    (jobs : List (JobId × JobKind)) (gone : List JobId) (past : List Segment)
    (current waiting : List (JobId × JobKind)) : Prop where
  split : jobs = past.map Segment.entry ++ current ++ waiting
  accepted : p.free = true → Note.admissions notes = jobs.map Prod.fst
  begun : Note.beginnings notes = (past.map Segment.entry ++ current).map Prod.fst
  queued : waiting.map Prod.fst = p.pending
  called : Note.calls notes = p.world.log.map Prod.fst ++ p.worker.unanswered
  stands : Stand p past current
  played : ∀ segment ∈ past, segment.Played
  ordered : ∀ segment ∈ past, segment.calls ≠ [] ∧ segment.calls.map Prod.fst <+:
    [.forgetUsers, .forgetTickets, .channels, .users, .tickets] ++
      segment.kind.audiences.map .report ++ segment.kind.audiences.map .mail
  told : ∀ segment ∈ past,
    (∃ job, peek segment.id p.store = some job ∧ job.outcome = some segment.status) ∨
      segment.id ∈ gone ∧ peek segment.id p.store = none
  remains : p.worker.departed = true → p.stopping = true
  renews : ∀ run, p.worker = .running run → run.closing = true → p.stopping = false →
    ∀ id job, id ≠ run.id → peek id p.store = some job → ∀ now,
      (p.steps (.leave :: Event.works 5 now ++
        ([.enter id, .leave] ++ Event.works 2 now))).1.worker =
          .running (Run.begin id (p.runs + 1) p.timeLimit job.kind)

theorem Course.account [Stages W] {timeLimit : Nat} {store : σ} {world : W}
    {p : Processor σ (Logged W)} {notes : List Note} {jobs : List (JobId × JobKind)}
    {gone : List JobId} (course : Course timeLimit store world p notes jobs gone) :
    ∃ past current waiting, Account p notes jobs gone past current waiting := by
  obtain ⟨past, current, waiting, ledger⟩ := Ledger.reached course
  refine ⟨past, current, waiting, ledger.split, fun free => ?_, ledger.begun, ledger.queued,
    (Answered.reached course).calls, ledger.stands, ledger.played, fun segment member => ?_,
    fun segment member => ?_, ledger.admission.departing,
    fun run running closing going id job different held now => ?_⟩
  · have nobody : p.caller = none := by simpa [Processor.free] using free
    have queue := ledger.admission.queue
    rw [nobody, Option.toList_none, List.append_nil] at queue
    rw [queue, ledger.begun, ← ledger.queued, ← List.map_append, ← ledger.split]
  · rw [← JobKind.steps_eq]
    exact (ledger.played segment member).inOrder
  · rcases ledger.stored segment.entry (ledger.past_mem member) with ⟨job, held, _⟩ | absent
    · exact .inl ⟨job, held, ledger.told segment member job held⟩
    · exact .inr absent
  · obtain ⟨outcome, owes⟩ := ledger.serves.owing run running
    obtain ⟨status, rfl⟩ := owes.known closing
    exact renews ledger.admission running owes going different held now

theorem Course.steps [Stages W] {timeLimit : Nat} {store : σ} {world : W}
    {p : Processor σ (Logged W)} {notes : List Note} {jobs : List (JobId × JobKind)}
    {gone : List JobId} (course : Course timeLimit store world p notes jobs gone)
    (events : List Event) (calm : ∀ event ∈ events, event.offers = false) :
    Course timeLimit store world (p.steps events).1 (notes ++ (p.steps events).2) jobs gone := by
  induction events generalizing p notes with
  | nil =>
    rw [Processor.steps, List.append_nil]
    exact course
  | cons event events ih =>
    have silent := calm event List.mem_cons_self
    have next := ih (course.step event fun id same => by rw [same] at silent; cases silent)
      fun other member => calm other (List.mem_cons_of_mem event member)
    rwa [List.append_assoc] at next

theorem Course.accept_open [Stages W] {timeLimit : Nat} {store : σ} {world : W}
    {p : Processor σ (Logged W)} {notes : List Note} {jobs : List (JobId × JobKind)}
    {gone : List JobId} (course : Course timeLimit store world p notes jobs gone) (id : JobId)
    (job : Job) (free : p.free = true) (ready : p.ready = true) (held : peek id p.store = some job)
    (running : job.isRunning = true) (new : id ∉ jobs.map Prod.fst) :
    Course timeLimit store world { p with mailbox := some id, caller := some id } notes
      (jobs ++ [(id, job.kind)]) gone := by
  obtain ⟨_, _, _, ledger⟩ := Ledger.reached course
  exact course.accept id job free (ledger.admission.enter_open free ready id) held running new

section Refused

def refusal : StepError := .download (.undecodable .users)

def order : Job := { Job.new .serviceDesk ⟨0, 0⟩ with id := some ⟨1⟩ }

def offline : Scripted := { script := { failure := some (.users, refusal) } }

def attentive : Processor History (Logged Scripted) × List Note :=
  (Processor.new 60 (.withCapacity 1) { world := offline }).steps (.start :: Event.works 3 ⟨0, 0⟩)

def ordered : Processor History (Logged Scripted) :=
  { attentive.1 with store := attentive.1.store.push order }

def failed : Processor History (Logged Scripted) × List Note :=
  Processor.steps { ordered with mailbox := some ⟨1⟩, caller := some ⟨1⟩ }
    (.leave :: Event.works 15 ⟨0, 0⟩)

theorem answering_scripted :
    Answering fun world : Scripted => world.script.gate = none ∧ world.held = none := by
  rintro step left ⟨script, held, openings⟩ ⟨rest, rfl⟩
  have open' : script.gate ≠ some step := by
    intro waits
    cases rest.symm.trans waits
  have performed : Stages.perform step left ({ script, openings } : Scripted) =
      (script.outcome step, left, { script, openings }) := if_neg open'
  rw [performed]
  refine ⟨?_, rest, rfl⟩
  unfold Script.outcome
  repeat' split
  all_goals exact fun waits => by cases waits

end Refused

end Processor

end TicketReports
