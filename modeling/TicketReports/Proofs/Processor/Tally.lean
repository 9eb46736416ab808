import Mathlib.Data.List.SplitBy
import TicketReports.Proofs.Processor.Segments

set_option autoImplicit false

namespace TicketReports

namespace Segment

theorem countP_congr {first second : List Segment}
    (same : first.map Segment.calls = second.map Segment.calls) :
    first.countP succeeded = second.countP succeeded ∧
      (first.countP fun segment => !segment.succeeded) =
        second.countP fun segment => !segment.succeeded := by
  -- The calls alone tell which runs succeeded.
  have counts : ∀ test : List (Step × StepEnd) → Bool,
      first.countP (test ∘ Segment.calls) = second.countP (test ∘ Segment.calls) := by
    intro test
    rw [← List.countP_map, ← List.countP_map, same]
  let fine (calls : List (Step × StepEnd)) : Bool := calls.all fun call => call.2 == .done
  exact ⟨counts fine, counts fun calls => !fine calls⟩

namespace Played

variable {segment : Segment}

theorem whole_or_broken (played : segment.Played) :
    (segment.calls = successes segment.kind.steps ∧ segment.status = .success) ∨
      ∃ made step rest result, segment.kind.steps = made ++ step :: rest ∧
        segment.calls = successes made ++ [(step, result)] ∧ result ≠ .done ∧
        segment.status ≠ .success := by
  rcases played with whole | ⟨made, step, rest, result, plan, calls, ended⟩
  · exact .inl whole
  · refine .inr ⟨made, step, rest, result, plan, calls, ?_⟩
    rcases ended with ⟨error, rfl, told⟩ | ⟨detail, text, rfl, told⟩ <;> simp [told]

theorem success_iff (played : segment.Played) :
    segment.status = .success ↔ segment.succeeded = true := by
  rcases played.whole_or_broken with ⟨calls, told⟩ | ⟨_, _, _, _, _, calls, broken, told⟩
  · simp [succeeded_of_successes calls, told]
  · simp [not_succeeded_of_broken calls broken, told]

theorem opens (played : segment.Played) : ∃ result rest,
    segment.calls = (.forgetUsers, result) :: rest ∧ ∀ call ∈ rest, call.1 ≠ .forgetUsers := by
  obtain ⟨some, inOrder⟩ := played.inOrder
  obtain ⟨others, plan, never⟩ : ∃ others, segment.kind.steps = .forgetUsers :: others ∧
      ∀ step ∈ others, step ≠ Step.forgetUsers := by
    cases segment.kind <;> exact ⟨_, rfl, by decide⟩
  rw [plan] at inOrder
  cases calls : segment.calls with
  | nil => exact absurd calls some
  | cons call rest =>
    rw [calls, List.map_cons, List.cons_prefix_cons] at inOrder
    obtain ⟨first, later⟩ := inOrder
    refine ⟨call.2, rest, by rw [← first], fun other member => ?_⟩
    exact never _ (later.subset (List.mem_map_of_mem member))

end Played

end Segment

def callsByRun (log : List (Step × StepEnd)) : List (List (Step × StepEnd)) :=
  log.splitBy fun _ next => next.1 != .forgetUsers

theorem callsByRun_flatMap {segments : List Segment}
    (played : ∀ segment ∈ segments, segment.Played) :
    callsByRun (segments.flatMap Segment.calls) = segments.map Segment.calls := by
  -- A run ends where the next one opens, with a call that no run makes later.
  have opens : ∀ calls ∈ segments.map Segment.calls, ∃ result rest,
      calls = (.forgetUsers, result) :: rest ∧ ∀ call ∈ rest, call.1 ≠ Step.forgetUsers := by
    intro calls member
    obtain ⟨segment, among, rfl⟩ := List.mem_map.mp member
    exact (played segment among).opens
  rw [callsByRun, List.flatMap_def]
  refine List.splitBy_flatten (fun empty => ?_) (fun calls member => ?_) ?_
  · obtain ⟨result, rest, is, _⟩ := opens [] empty
    cases is
  · obtain ⟨result, rest, rfl, never⟩ := opens calls member
    refine List.Pairwise.isChain (List.pairwise_cons.mpr ⟨fun next later => ?_, ?_⟩)
    · simpa using never next later
    · exact List.pairwise_of_forall_mem_list fun _ _ next later => by simpa using never next later
  · refine List.Pairwise.isChain (List.pairwise_of_forall_mem_list fun first among next later => ?_)
    obtain ⟨_, _, rfl, _⟩ := opens first among
    obtain ⟨_, _, rfl, _⟩ := opens next later
    exact ⟨by simp, by simp, by simp⟩

namespace Processor

variable {σ W : Type}

def served (lookup : JobId × Option JobKind) : JobId × JobKind := (lookup.1, lookup.2.getD .all)

inductive Flight (p : Processor σ (Logged W)) (ended : List Segment) :
    List (JobId × JobKind) → Prop
  | rest (none : p.worker.flying? = none) (log : p.world.log = ended.flatMap Segment.calls) :
      Flight p ended (ended.map Segment.entry)
  | flying (run : Run) (kind : JobKind) (made : List Step) (running : p.worker = .running run)
      (working : run.closing = false) (plan : kind.steps = made ++ Action.steps run.todo)
      (log : p.world.log = ended.flatMap Segment.calls ++ Segment.successes made) :
      Flight p ended (ended.map Segment.entry ++ [(run.id, kind)])

/-- What every trail keeps: `ended` are the runs that have their outcome. -/
structure Tally (p : Processor σ (Logged W)) (notes : List Note)
    (seen : List (JobId × Option JobKind)) (ended : List Segment) : Prop where
  admission : Admission p notes
  begun : Note.beginnings notes = seen.map Prod.fst
  played : ∀ segment ∈ ended, segment.Played
  succeeded : p.counters.succeeded = ended.countP Segment.succeeded
  failed : p.counters.failed = ended.countP fun segment => !segment.succeeded
  flight : Flight p ended (seen.map served)

namespace Flight

variable {p : Processor σ (Logged W)} {ended : List Segment} {entries : List (JobId × JobKind)}

theorem resting (flight : Flight p ended entries) (idle : p.worker.flying? = none) :
    entries = ended.map Segment.entry ∧ p.world.log = ended.flatMap Segment.calls := by
  cases flight with
  | rest _ log => exact ⟨rfl, log⟩
  | flying run kind made running working => simp [running, Worker.flying?, working] at idle

theorem underWay (flight : Flight p ended entries) {run : Run} (running : p.worker = .running run)
    (working : run.closing = false) : ∃ kind made,
      entries = ended.map Segment.entry ++ [(run.id, kind)] ∧
        kind.steps = made ++ Action.steps run.todo ∧
        p.world.log = ended.flatMap Segment.calls ++ Segment.successes made := by
  cases flight with
  | rest idle _ => simp [running, Worker.flying?, working] at idle
  | flying other kind made runs _ plan log =>
    cases running.symm.trans runs
    exact ⟨kind, made, rfl, plan, log⟩

end Flight

namespace Tally

variable {p q : Processor σ (Logged W)} {notes later : List Note}
  {seen : List (JobId × Option JobKind)} {ended : List Segment}

theorem new (timeLimit : Nat) (store : σ) (world : W) :
    Tally (Processor.new timeLimit store ({ world } : Logged W)) [] [] [] :=
  ⟨.new timeLimit store _, rfl, nofun, rfl, rfl, .rest rfl rfl⟩

theorem still (tally : Tally p notes seen ended) (admission : Admission q (notes ++ later))
    (quiet : Note.beginnings later = []) (counters : q.counters = p.counters)
    (log : q.world.log = p.world.log)
    (rests : p.worker.flying? = none → q.worker.flying? = none)
    (flies : ∀ run, p.worker = .running run → run.closing = false →
      ∃ next, q.worker = .running next ∧ next.id = run.id ∧ next.closing = false ∧
        Action.steps next.todo = Action.steps run.todo) :
    Tally q (notes ++ later) seen ended := by
  refine ⟨admission, ?_, tally.played, ?_, ?_, ?_⟩
  · rw [Note.beginnings_append, quiet, List.append_nil]
    exact tally.begun
  · rw [counters]
    exact tally.succeeded
  · rw [counters]
    exact tally.failed
  · have flight := tally.flight
    generalize seen.map served = entries at flight
    cases flight with
    | rest none logged => exact .rest (rests none) (log.trans logged)
    | flying run kind made running working plan logged =>
      obtain ⟨next, goesOn, same, working', todo⟩ := flies run running working
      rw [← same]
      exact .flying next kind made goesOn working' (by rw [todo, plan]) (log.trans logged)

theorem ends (tally : Tally p notes seen ended) (admission : Admission q (notes ++ later))
    (quiet : Note.beginnings later = []) {segment : Segment} (played : segment.Played)
    (entries : seen.map served = ended.map Segment.entry ++ [segment.entry])
    (counted : q.counters =
      if segment.succeeded then p.counters.countSucceeded else p.counters.countFailed)
    (rests : q.worker.flying? = none)
    (log : q.world.log = ended.flatMap Segment.calls ++ segment.calls) :
    Tally q (notes ++ later) seen (ended ++ [segment]) := by
  have succeeded := tally.succeeded
  have failed := tally.failed
  refine ⟨admission, ?_, fun other member => ?_, ?_, ?_, ?_⟩
  · rw [Note.beginnings_append, quiet, List.append_nil]
    exact tally.begun
  · rcases List.mem_append.mp member with old | new
    · exact tally.played other old
    · exact List.mem_singleton.mp new ▸ played
  · cases outcome : segment.succeeded <;>
      simp [counted, outcome, Counters.countSucceeded, Counters.countFailed, succeeded]
  · cases outcome : segment.succeeded <;>
      simp [counted, outcome, Counters.countSucceeded, Counters.countFailed, failed]
  · have all : seen.map served = (ended ++ [segment]).map Segment.entry := by
      rw [entries, List.map_append, List.map_singleton]
    rw [all]
    exact .rest rests (by rw [log, List.flatMap_append, List.flatMap_singleton])

theorem others (tally : Tally p notes seen ended) (after : σ) :
    Tally { p with store := after } notes seen ended := by
  refine ⟨tally.admission.aside after p.counters, tally.begun, tally.played, tally.succeeded,
    tally.failed, ?_⟩
  have flight := tally.flight
  generalize seen.map served = entries at flight ⊢
  cases flight with
  | rest idle log => exact .rest idle log
  | flying run kind made running working plan log =>
    exact .flying run kind made running working plan log

end Tally

variable [JobStore σ]

def lookups (p : Processor σ W) : Event → List (JobId × Option JobKind)
  | .work _ _ =>
    match p.worker with
    | .looking id => [(id, (JobStore.get id p.store).1.toOption.map Job.kind)]
    | _ => []
  | _ => []

/-- The ways a processor comes to a state over any store, where others may do with the store what is
`fair`. -/
inductive Trail [Stages W] (fair : σ → Prop) (timeLimit : Nat) (store : σ) (world : W) :
    Processor σ (Logged W) → List Note → List (JobId × Option JobKind) → Prop
  | new (fine : fair store) : Trail fair timeLimit store world (.new timeLimit store { world }) [] []
  | step {p : Processor σ (Logged W)} {notes : List Note} {seen : List (JobId × Option JobKind)}
      (past : Trail fair timeLimit store world p notes seen) (event : Event) :
      Trail fair timeLimit store world (p.step event).1 (notes ++ (p.step event).2)
        (seen ++ p.lookups event)
  | others {p : Processor σ (Logged W)} {notes : List Note} {seen : List (JobId × Option JobKind)}
      (past : Trail fair timeLimit store world p notes seen) (after : σ) (fine : fair after) :
      Trail fair timeLimit store world { p with store := after } notes seen

def sought [Stages W] (p : Processor σ W) : List Event → List (JobId × Option JobKind)
  | [] => []
  | event :: events => p.lookups event ++ (p.step event).1.sought events

theorem Trail.steps [Stages W] {fair : σ → Prop} {timeLimit : Nat} {store : σ} {world : W}
    {p : Processor σ (Logged W)} {notes : List Note} {seen : List (JobId × Option JobKind)}
    (trail : Trail fair timeLimit store world p notes seen) (events : List Event) :
    Trail fair timeLimit store world (p.steps events).1 (notes ++ (p.steps events).2)
      (seen ++ p.sought events) := by
  induction events generalizing p notes seen with
  | nil =>
    rw [Processor.steps, sought, List.append_nil, List.append_nil]
    exact trail
  | cons event events ih =>
    have next := ih (trail.step event)
    rwa [List.append_assoc, List.append_assoc] at next

theorem step_aside [Stages W] (p : Processor σ (Logged W)) {event : Event}
    (idle : ∀ away now, event ≠ .work away now) :
    (p.step event).1.counters = p.counters ∧ (p.step event).1.world.log = p.world.log ∧
      p.lookups event = [] ∧
      ((p.step event).1.worker = p.worker ∨
        (∃ run, p.worker = .running run ∧ (p.step event).1.worker = .running run.cancel) ∨
          p.worker = .absent ∧ (p.step event).1.worker = .surveying) := by
  have unseen : p.lookups event = [] := by
    cases event with
    | work away now => exact absurd rfl (idle away now)
    | _ => rfl
  have move := p.step_spec event
  generalize (p.step event).1 = q, (p.step event).2 = notes at move
  cases move with
  | worked away now => exact absurd rfl (idle away now)
  | started absent => exact ⟨rfl, rfl, unseen, .inr (.inr ⟨absent, rfl⟩)⟩
  | expired run running => exact ⟨rfl, rfl, unseen, .inr (.inl ⟨run, running, rfl⟩)⟩
  | calledOff run running => exact ⟨rfl, rfl, unseen, .inr (.inl ⟨run, running, rfl⟩)⟩
  | _ => exact ⟨rfl, rfl, unseen, .inl rfl⟩

theorem work_counters [Stages W] (p : Processor σ W) (away : Bool) (now : Timestamp)
    (idle : ∀ run, p.worker ≠ .running run) : (p.work away now).1.counters = p.counters := by
  have turn := p.work_spec away now
  generalize (p.work away now).1 = q, (p.work away now).2 = notes at turn
  cases turn with
  | advanced run q notes running => exact absurd running (idle run)
  | _ => rfl

theorem Worker.flying?_idle {worker : Worker} (idle : ∀ run, worker ≠ .running run) :
    worker.flying? = none := by
  cases worker with
  | running run => exact absurd rfl (idle run)
  | _ => rfl

theorem lookUp_worker (p : Processor σ W) (id : JobId) :
    (p.lookUp id).1.worker = .running (Run.begin id (p.runs + 1)
      (if p.stopping then 0 else p.timeLimit)
      (served (id, (JobStore.get id p.store).1.toOption.map Job.kind)).2) := by
  unfold lookUp served
  generalize JobStore.get id p.store = answer
  obtain ⟨found, store⟩ := answer
  cases found <;> rfl

namespace Tally

variable {p q : Processor σ (Logged W)} {notes later : List Note}
  {seen : List (JobId × Option JobKind)} {ended : List Segment}

theorem begins (tally : Tally p notes seen ended) {id : JobId} (looking : p.worker = .looking id) :
    Tally (p.lookUp id).1 (notes ++ (p.lookUp id).2)
      (seen ++ [(id, (JobStore.get id p.store).1.toOption.map Job.kind)]) ended := by
  obtain ⟨entries, log⟩ := tally.flight.resting (by rw [looking]; rfl)
  refine ⟨tally.admission.lookUp looking, ?_, tally.played, tally.succeeded, tally.failed, ?_⟩
  · rw [Note.beginnings_append, tally.begun, List.map_append]
    rfl
  · rw [List.map_append, List.map_singleton, entries]
    refine .flying _ _ [] (p.lookUp_worker id) rfl (Action.steps_plan _).symm ?_
    exact log.trans (List.append_nil _).symm

variable [Stages W]

theorem records (tally : Tally p notes seen ended) {run : Run} (running : p.worker = .running run)
    (closing : run.closing = true) {now : Timestamp} (advance : Advance p run now q later)
    (admission : Admission q (notes ++ later)) : Tally q (notes ++ later) seen ended := by
  -- A run that has its outcome asks for nothing, it only records.
  have silent : ∀ {action : Action} {step : Step} {rest : List Action}, run.todo = action :: rest →
      action.asks? ≠ some step := by
    intro action step rest todo asks
    have quiet := tally.admission.quiet run running closing action (by simp [todo])
    cases asks.symm.trans quiet
  have working : ∀ other, p.worker = .running other → other.closing ≠ false := by
    intro other runs
    cases running.symm.trans runs
    simp [closing]
  have flies : ∀ other, p.worker = .running other → other.closing = false → ∃ next,
      q.worker = .running next ∧ next.id = other.id ∧ next.closing = false ∧
        Action.steps next.todo = Action.steps other.todo :=
    fun other runs open' => absurd open' (working other runs)
  have tells : ∀ {todo : List Action},
      (Worker.running { run with todo }).flying? = none := if_pos closing
  cases advance with
  | retire => exact tally.still admission rfl rfl rfl (fun _ => rfl) flies
  | succeed spent open' => exact absurd open' (working run running)
  | done action step rest left world todo asks => exact absurd asks (silent todo)
  | wait action step rest left world todo asks => exact absurd asks (silent todo)
  | fail action step rest left world error todo asks => exact absurd asks (silent todo)
  | panic action step rest left world detail todo asks => exact absurd asks (silent todo)
  | missing => exact tally.still admission rfl rfl rfl (fun _ => tells) flies
  | declined => exact tally.still admission rfl rfl rfl (fun _ => tells) flies
  | changed => exact tally.still admission rfl rfl rfl (fun _ => tells) flies
  | saved => exact tally.still admission rfl rfl rfl (fun _ => tells) flies

theorem proceeds (tally : Tally p notes seen ended) {run : Run} {kind : JobKind}
    {made : List Step} (working : run.closing = false)
    (entries : seen.map served = ended.map Segment.entry ++ [(run.id, kind)])
    (plan : kind.steps = made ++ Action.steps run.todo)
    (log : p.world.log = ended.flatMap Segment.calls ++ Segment.successes made) {now : Timestamp}
    (advance : Advance p run now q later) (admission : Admission q (notes ++ later)) :
    ∃ ended, Tally q (notes ++ later) seen ended := by
  have quiet := advance.beginnings
  cases advance.stride working plan log with
  | goesOn next made worker same working plan counters log =>
    refine ⟨ended, admission, ?_, tally.played, counters ▸ tally.succeeded,
      counters ▸ tally.failed, ?_⟩
    · rw [Note.beginnings_append, quiet, List.append_nil]
      exact tally.begun
    · rw [entries, ← same]
      exact .flying next kind made worker working plan log
  | ends left segment entry played worker _ counters log =>
    rw [← entry] at entries
    exact ⟨_, tally.ends admission quiet played entries counters (by rw [worker]; rfl) log⟩

theorem advances (tally : Tally p notes seen ended) {run : Run} (running : p.worker = .running run)
    (now : Timestamp) : ∃ ended,
      Tally (p.advance run now).1 (notes ++ (p.advance run now).2) seen ended := by
  have advance := p.advance_spec run now
  have admission := tally.admission.advance running now
  cases closing : run.closing with
  | true => exact ⟨ended, tally.records running closing advance admission⟩
  | false =>
    obtain ⟨kind, made, entries, plan, log⟩ := tally.flight.underWay running closing
    exact tally.proceeds closing entries plan log advance admission

theorem work (tally : Tally p notes seen ended) (away : Bool) (now : Timestamp) : ∃ ended,
    Tally (p.work away now).1 (notes ++ (p.work away now).2)
      (seen ++ p.lookups (.work away now)) ended := by
  by_cases looking : ∃ id, p.worker = .looking id
  · obtain ⟨id, worker⟩ := looking
    rw [Processor.work, lookups, worker]
    exact ⟨ended, tally.begins worker⟩
  have unseen : p.lookups (.work away now) = [] := by
    rw [lookups]
    split
    next id worker => exact absurd ⟨id, worker⟩ looking
    next => rfl
  rw [unseen, List.append_nil]
  by_cases running : ∃ run, p.worker = .running run
  · obtain ⟨run, worker⟩ := running
    rw [Processor.work, worker]
    exact tally.advances worker now
  · have idle := not_exists.mp running
    obtain ⟨quiet, world, rests, -, -⟩ := p.work_idle away now (not_exists.mp looking) idle
    refine ⟨ended, tally.still (tally.admission.work away now) (by rw [quiet]; rfl)
      (p.work_counters away now idle) (congrArg Logged.log world)
      (fun _ => Worker.flying?_idle rests) fun run worker => absurd worker (idle run)⟩

theorem step (tally : Tally p notes seen ended) (event : Event) : ∃ ended,
    Tally (p.step event).1 (notes ++ (p.step event).2) (seen ++ p.lookups event) ended := by
  by_cases works : ∃ away now, event = .work away now
  · obtain ⟨away, now, rfl⟩ := works
    exact tally.work away now
  have idle : ∀ away now, event ≠ .work away now := fun away now same => works ⟨away, now, same⟩
  obtain ⟨counters, log, unseen, worker⟩ := p.step_aside idle
  rw [unseen, List.append_nil]
  refine ⟨ended, tally.still (tally.admission.step event) (p.step_beside idle).2 counters log
    (fun rests => ?_) fun run running working => ?_⟩
  · rcases worker with same | ⟨run, running, cancelled⟩ | ⟨_, surveying⟩
    · rw [same, rests]
    · rw [cancelled, ← rests, running]
      rfl
    · rw [surveying]
      rfl
  · rcases worker with same | ⟨other, runs, cancelled⟩ | ⟨absent, _⟩
    · exact ⟨run, same.trans running, rfl, working, rfl⟩
    · cases running.symm.trans runs
      exact ⟨run.cancel, cancelled, rfl, working, rfl⟩
    · cases running.symm.trans absent

theorem reached {fair : σ → Prop} {timeLimit : Nat} {store : σ} {world : W}
    (trail : Trail fair timeLimit store world p notes seen) : ∃ ended, Tally p notes seen ended := by
  induction trail with
  | new => exact ⟨[], .new timeLimit store world⟩
  | step _ event ih =>
    obtain ⟨ended, tally⟩ := ih
    exact tally.step event
  | others _ after _ ih =>
    obtain ⟨ended, tally⟩ := ih
    exact ⟨ended, tally.others after⟩

end Tally

end Processor

end TicketReports
