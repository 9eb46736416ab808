import TicketReports.JobStore.History
import TicketReports.Proofs.Mail.Attachment
import TicketReports.Proofs.Pipeline.Isolation
import TicketReports.Proofs.Processor.Completion

set_option autoImplicit false

namespace TicketReports

/-- A network whose requests are taken down. -/
structure Overheard (N : Type) where
  net : N
  sent : List Request := []

instance {N : Type} [Network N] : Network (Overheard N) where
  token line :=
    let (answer, net) := Network.token line.net
    (answer, { line with net })
  send request line :=
    let (delivery, net) := Network.send request line.net
    (delivery, { net, sent := line.sent ++ [request] })

def Event.cancels : Event → Bool
  | .expire => true
  | .shutdown => true
  | _ => false

def Event.isTurn : Event → Bool
  | .work _ _ => true
  | _ => false

def Note.tells : Note → Bool
  | .called _ => true
  | .ended _ _ => true
  | _ => false

namespace Live

variable {W : Type} [Network W]

def outcome : Except StepError Unit → FinalStatus
  | .ok () => .success
  | .error error => .error error.message

theorem perform_run {step : Step} {left after : Nat} {live next : Live W} {result : StepEnd}
    (answer : Stages.perform step left live = (result, after, next)) :
    (result = .done ∧ run step left live = (.ok (), after, next)) ∨
      ∃ error, result = .failed error ∧ run step left live = (.error error, after, next) := by
  simp only [Stages.perform] at answer
  split at answer
  next ran => cases answer; exact .inl ⟨rfl, ran⟩
  next error _ _ ran => cases answer; exact .inr ⟨error, rfl, ran⟩

theorem answering : Answering fun _ : Live W => True := by
  refine fun step left live _ => ⟨fun waits => ?_, trivial⟩
  rcases perform_run (Prod.ext waits rfl : Stages.perform step left live = (.waiting, _)) with
    ⟨done, _⟩ | ⟨error, failed, _⟩
  · cases done
  · cases failed

end Live

namespace Processor

variable {σ W : Type} [Network W]

/-- How far a run has come on the world it began with: it has carried out the steps up to one of its
plan, or it is over and left what the whole plan leaves. -/
inductive Carried (kind : JobKind) (left : Nat) (live : Live W) (p : Processor σ (Live W))
    (notes : List Note) (turns : Nat) : Prop
  | working (run : Run) (made : List Step) (running : p.worker = .running run)
      (working : run.closing = false) (plan : kind.steps = made ++ Action.steps run.todo)
      (reached : Paging.each Live.run made left live = (.ok (), run.left, p.world))
      (called : ∀ step, .called step ∈ notes → step ∈ made)
      (unended : ∀ id success, .ended id success ∉ notes) (effort : run.effort + turns < 40)
  | finished (world : p.world = (Paging.each Live.run kind.steps left live).2.2)
      (ended : ∃ id success, .ended id success ∈ notes)
      (told : ∀ id success, .ended id success ∈ notes →
        success = (Live.outcome (Paging.each Live.run kind.steps left live).1).isSuccess)
      (owes : ∀ run, p.worker = .running run → run.closing = true ∧ ∀ action ∈ run.todo,
        action.asks? = none ∧ ∀ status, action = .record (.close status) →
          status = Live.outcome (Paging.each Live.run kind.steps left live).1)

namespace Carried

variable {kind : JobKind} {left turns : Nat} {live : Live W} {p q : Processor σ (Live W)}
  {notes later : List Note}

theorem begin (id : JobId) (number : Nat)
    (begun : p.worker = .running (Run.begin id number left kind)) :
    Carried kind left p.world p [] 0 := by
  refine .working (Run.begin id number left kind) [] begun rfl (Action.steps_plan kind).symm rfl
    (by simp) (by simp) ?_
  rw [Nat.add_zero]
  exact Run.effort_begin id number left kind

theorem told_before {note : Note} (tells : note.tells = true)
    (silent : ∀ note ∈ later, note.tells = false) (member : note ∈ notes ++ later) :
    note ∈ notes := by
  rcases List.mem_append.mp member with earlier | late
  · exact earlier
  · cases tells.symm.trans (silent note late)

theorem still (carried : Carried kind left live p notes turns) (world : q.world = p.world)
    (worker : q.worker = p.worker) (silent : ∀ note ∈ later, note.tells = false) :
    Carried kind left live q (notes ++ later) turns := by
  cases carried with
  | working run made running working plan reached called unended effort =>
    exact .working run made (worker.trans running) working plan (world ▸ reached)
      (fun step member => called step (told_before rfl silent member))
      (fun id success member => unended id success (told_before rfl silent member)) effort
  | finished final ended told owes =>
    obtain ⟨id, success, member⟩ := ended
    exact .finished (world.trans final) ⟨id, success, List.mem_append_left _ member⟩
      (fun id success member => told id success (told_before rfl silent member))
      (fun run running => owes run (worker.symm.trans running))

theorem rests (carried : Carried kind left live p notes turns) (world : q.world = p.world)
    (idle : ∀ run, p.worker ≠ .running run) (still : ∀ run, q.worker ≠ .running run)
    (later : Nat) : Carried kind left live q (notes ++ []) later := by
  rw [List.append_nil]
  cases carried with
  | working run _ running _ _ _ _ _ _ => exact absurd running (idle run)
  | finished final ended told owes =>
    exact .finished (world.trans final) ended told fun run running => absurd running (still run)

theorem ends {run : Run} {status : FinalStatus} {id : JobId}
    (world : p.world = (Paging.each Live.run kind.steps left live).2.2)
    (known : status = Live.outcome (Paging.each Live.run kind.steps left live).1)
    (runs : p.worker = .running (run.close status))
    (unended : ∀ id success, .ended id success ∉ notes) (turns : Nat) :
    Carried kind left live p (notes ++ [.ended id status.isSuccess]) turns := by
  refine .finished world ⟨id, status.isSuccess, by simp⟩ ?_ ?_
  · intro other success member
    rcases List.mem_append.mp member with earlier | late
    · exact absurd earlier (unended other success)
    · cases List.mem_singleton.mp late
      rw [known]
  · intro next running
    cases runs.symm.trans running
    refine ⟨rfl, fun action member => ?_⟩
    cases List.mem_singleton.mp member
    refine ⟨rfl, fun other same => ?_⟩
    cases same
    exact known

theorem not_ended_calls (action : Action) (id : JobId) (success : Bool) :
    Note.ended id success ∉ action.calls := by
  cases action <;> simp [Action.calls]

theorem called_calls {action : Action} {step other : Step} (asks : action.asks? = some step)
    (member : .called other ∈ action.calls) : other = step := by
  cases action with
  | perform performed =>
    cases asks
    simpa [Action.calls] using member
  | _ => cases member

theorem advance [JobStore σ] {run : Run} {made : List Step} (running : p.worker = .running run)
    (working : run.closing = false) (plan : kind.steps = made ++ Action.steps run.todo)
    (reached : Paging.each Live.run made left live = (.ok (), run.left, p.world))
    (called : ∀ step, .called step ∈ notes → step ∈ made)
    (unended : ∀ id success, .ended id success ∉ notes) (effort : run.effort + turns < 40)
    {now : Timestamp} (advance : Advance p run now q later) :
    Carried kind left live q (notes ++ later) (turns + 1) := by
  have quiet : run.Quiet := fun closing => by cases working.symm.trans closing
  have lower : q.effort < run.effort + 2 :=
    effort_running running ▸ (advance.lowers Live.answering trivial running quiet).2
  have asked : ∀ {action : Action} {step : Step} {rest : List Action},
      run.todo = action :: rest → action.asks? = some step →
      kind.steps = made ++ step :: Action.steps rest := by
    intro action step rest todo asks
    rw [plan, todo, Action.steps, List.filterMap_cons_some asks]
    rfl
  have silent : ∀ {action : Action} {rest : List Action},
      run.todo = action :: rest → action.asks? = none →
      kind.steps = made ++ Action.steps rest := by
    intro action rest todo asks
    rw [plan, todo, Action.steps, List.filterMap_cons_none asks]
    rfl
  -- What the store does leaves the run where it was.
  have records : ∀ next : Run, q.worker = .running next → next.closing = false →
      next.left = run.left → q.world = p.world → later = [] →
      kind.steps = made ++ Action.steps next.todo →
      Carried kind left live q (notes ++ later) (turns + 1) := by
    rintro next runs goes time world rfl plan
    rw [effort_running runs] at lower
    rw [List.append_nil]
    exact .working next made runs goes plan (by rw [time, world, reached]) called unended (by omega)
  -- The step that does not succeed is the last that is carried out.
  have broken : ∀ {action : Action} {step : Step} {rest : List Action} {error : StepError}
      {after : Nat} {world : Live W}, run.todo = action :: rest → action.asks? = some step →
      Live.run step run.left p.world = (.error error, after, world) →
      Paging.each Live.run kind.steps left live = (.error error, after, world) := by
    intro action step rest error after world todo asks ran
    rw [asked todo asks, Paging.each_append, reached]
    dsimp only [Paging.each]
    rw [ran]
  cases advance with
  | retire spent closing => cases working.symm.trans closing
  | succeed spent _ =>
    rw [spent] at plan
    have whole : Paging.each Live.run kind.steps left live = (.ok (), run.left, p.world) := by
      rw [plan]
      exact (List.append_nil made).symm ▸ reached
    have known : .success = Live.outcome (Paging.each Live.run kind.steps left live).1 := by
      rw [whole, Live.outcome]
    exact ends (by rw [whole]) known rfl unended _
  | done action step rest after world todo asks answer =>
    rcases Live.perform_run answer with ⟨_, ran⟩ | ⟨error, failed, _⟩
    · rw [effort_running rfl] at lower
      refine .working { run with left := after, todo := rest } (made ++ [step]) rfl working ?_ ?_ ?_
        ?_ (by omega)
      · rw [asked todo asks, List.append_assoc]
        rfl
      · rw [Paging.each_append, reached]
        dsimp only
        rw [Paging.each_single, ran]
      · intro other member
        rcases List.mem_append.mp member with earlier | late
        · exact List.mem_append_left _ (called other earlier)
        · simp [called_calls asks late]
      · intro id success member
        rcases List.mem_append.mp member with earlier | late
        · exact unended id success earlier
        · exact not_ended_calls action id success late
    · cases failed
  | wait action step rest after world todo asks answer =>
    rcases Live.perform_run answer with ⟨waits, _⟩ | ⟨error, waits, _⟩ <;> cases waits
  | fail action step rest after world error todo asks answer =>
    rcases Live.perform_run answer with ⟨done, _⟩ | ⟨_, failed, ran⟩
    · cases done
    · cases failed
      have whole := broken todo asks ran
      have known : .error error.message =
          Live.outcome (Paging.each Live.run kind.steps left live).1 := by
        rw [whole, Live.outcome]
      rw [← List.append_assoc]
      refine ends (by rw [whole]) known rfl ?_ _
      intro id success member
      rcases List.mem_append.mp member with earlier | late
      · exact unended id success earlier
      · exact not_ended_calls action id success late
  | panic action step rest after world detail todo asks answer =>
    rcases Live.perform_run answer with ⟨panics, _⟩ | ⟨error, panics, _⟩ <;> cases panics
  | missing change rest error store todo answer =>
    exact records { run with todo := rest } rfl working rfl rfl rfl (silent todo rfl)
  | declined change rest job error store todo answer applied =>
    exact records { run with todo := rest } rfl working rfl rfl rfl (silent todo rfl)
  | changed change rest job next store todo answer applied =>
    have plan : kind.steps = made ++ Action.steps rest := silent todo rfl
    exact records { run with todo := .save next :: rest } rfl working rfl rfl rfl plan
  | saved job rest todo =>
    exact records { run with todo := rest } rfl working rfl rfl rfl (silent todo rfl)

theorem closes [JobStore σ] {run : Run} {outcome : FinalStatus} (closing : run.closing = true)
    (owes : ∀ action ∈ run.todo, action.asks? = none ∧ ∀ status,
      action = .record (.close status) → status = outcome)
    {now : Timestamp} (advance : Advance p run now q later) :
    q.world = p.world ∧ later = [] ∧ ∀ next, q.worker = .running next → next.closing = true ∧
      ∀ action ∈ next.todo, action.asks? = none ∧ ∀ status,
        action = .record (.close status) → status = outcome := by
  have asked : ∀ {action : Action} {step : Step} {rest : List Action},
      run.todo = action :: rest → action.asks? ≠ some step := by
    intro action step rest todo asks
    have member : action ∈ run.todo := by simp [todo]
    cases asks.symm.trans (owes action member).1
  -- What is left to do was to be done before, a job to be saved apart.
  have goesOn : ∀ {action : Action} {rest : List Action}, run.todo = action :: rest →
      ∀ next : Run, next.closing = run.closing →
      (∀ other ∈ next.todo, other ∈ rest ∨ ∃ job, other = .save job) →
      next.closing = true ∧ ∀ action ∈ next.todo, action.asks? = none ∧ ∀ status,
        action = .record (.close status) → status = outcome := by
    intro action rest todo next same kept
    refine ⟨same.trans closing, fun other member => ?_⟩
    rcases kept other member with before | ⟨job, rfl⟩
    · exact owes other (todo ▸ List.mem_cons_of_mem _ before)
    · exact ⟨rfl, nofun⟩
  cases advance with
  | retire spent _ => exact ⟨rfl, rfl, by simp⟩
  | succeed spent working => cases closing.symm.trans working
  | done action step rest after world todo asks answer => exact absurd asks (asked todo)
  | wait action step rest after world todo asks answer => exact absurd asks (asked todo)
  | fail action step rest after world error todo asks answer => exact absurd asks (asked todo)
  | panic action step rest after world detail todo asks answer => exact absurd asks (asked todo)
  | missing change rest error store todo answer =>
    refine ⟨rfl, rfl, fun next runs => ?_⟩
    cases runs
    exact goesOn todo _ rfl fun other member => .inl member
  | declined change rest job error store todo answer applied =>
    refine ⟨rfl, rfl, fun next runs => ?_⟩
    cases runs
    exact goesOn todo _ rfl fun other member => .inl member
  | changed change rest job next store todo answer applied =>
    refine ⟨rfl, rfl, fun next runs => ?_⟩
    cases runs
    refine goesOn todo _ rfl fun other member => ?_
    rcases List.mem_cons.mp member with rfl | before
    · exact .inr ⟨_, rfl⟩
    · exact .inl before
  | saved job rest todo =>
    refine ⟨rfl, rfl, fun next runs => ?_⟩
    cases runs
    exact goesOn todo _ rfl fun other member => .inl member

theorem turn [JobStore σ] (carried : Carried kind left live p notes turns) {away : Bool}
    {now : Timestamp} (turn : Turn p away now q later) (alone : Note.beginnings later = []) :
    Carried kind left live q (notes ++ later) (turns + 1) := by
  by_cases runs : ∃ run, p.worker = .running run
  · obtain ⟨run, runs⟩ := runs
    have advance : Advance p run now q later := by
      cases turn with
      | advanced other _ _ running advance =>
        cases runs.symm.trans running
        exact advance
      | _ => simp_all
    cases carried with
    | working other made running working plan reached called unended effort =>
      cases runs.symm.trans running
      exact Carried.advance runs working plan reached called unended effort advance
    | finished world ended told owes =>
      obtain ⟨closing, owes⟩ := owes run runs
      obtain ⟨same, rfl, owes⟩ := closes closing owes advance
      rw [List.append_nil]
      exact .finished (same.trans world) ended told owes
  · have idle : ∀ run, p.worker ≠ .running run := fun run running => runs ⟨run, running⟩
    have rests : q.world = p.world ∧ (∀ run, q.worker ≠ .running run) ∧ later = [] := by
      cases turn with
      | began id looking => cases alone
      | advanced run _ _ running _ => exact absurd running (idle run)
      | completed id finished => refine ⟨rfl, fun run => ?_, rfl⟩; dsimp only; split <;> simp
      | _ => simp_all
    obtain ⟨world, still, rfl⟩ := rests
    exact carried.rests world idle still _

theorem aside [JobStore σ] (carried : Carried kind left live p notes turns) {event : Event}
    (calm : event.isTurn = false) (uncancelled : event.cancels = false)
    (move : Move p event q later) : Carried kind left live q (notes ++ later) turns := by
  cases move with
  | worked away now q later turn => cases calm
  | expired run running => cases uncancelled
  | calledOff run running => cases uncancelled
  | told present idle => cases uncancelled
  | passed event _ => exact carried.still rfl rfl (by simp)
  | barred id taken => exact carried.still rfl rfl (by simp)
  | refused id free shut => exact carried.still rfl rfl (by simp [Note.tells])
  | filled id free ready empty receives => exact carried.still rfl rfl (by simp)
  | admitted id calls => exact carried.still rfl rfl (by simp [Note.tells])
  | started absent =>
    have idle : ∀ run, p.worker ≠ .running run := by simp [absent]
    exact carried.rests (q := { p with worker := .surveying }) rfl idle (by simp) turns
  | refusedStart present => exact carried.still rfl rfl (by simp [Note.tells])
  | closed stopping stopped unclosed => exact carried.still rfl rfl (by simp [Note.tells])

theorem step [JobStore σ] (carried : Carried kind left live p notes turns) {event : Event}
    (uncancelled : event.cancels = false) (alone : Note.beginnings (p.step event).2 = []) :
    Carried kind left live (p.step event).1 (notes ++ (p.step event).2)
      (turns + if event.isTurn then 1 else 0) := by
  cases calm : event.isTurn with
  | false => exact carried.aside calm uncancelled (p.step_spec event)
  | true =>
    cases event with
    | work away now => exact carried.turn (p.work_spec away now) alone
    | _ => cases calm

theorem steps [JobStore σ] (carried : Carried kind left live p notes turns) {events : List Event}
    (uncancelled : ∀ event ∈ events, event.cancels = false)
    (alone : Note.beginnings (p.steps events).2 = []) :
    Carried kind left live (p.steps events).1 (notes ++ (p.steps events).2)
      (turns + events.countP Event.isTurn) := by
  induction events generalizing p notes turns with
  | nil =>
    rw [Processor.steps, List.append_nil]
    exact carried
  | cons event events ih =>
    obtain ⟨now, later⟩ := List.forall_mem_cons.mp uncancelled
    simp only [Processor.steps, Note.beginnings_append, List.append_eq_nil_iff] at alone ⊢
    rw [← List.append_assoc, List.countP_cons, Nat.add_comm (events.countP _), ← Nat.add_assoc]
    exact ih (carried.step now alone.1) later alone.2

end Carried

/-- The run goes on without being cancelled, and no further run begins. -/
def Unhindered [JobStore σ] (p : Processor σ (Live W)) (events : List Event) : Prop :=
  (∀ event ∈ events, event.cancels = false) ∧ Note.beginnings (p.steps events).2 = []

end Processor

/-- What a run comes to: how its job is told to have ended, the requests it has made, the mails with
their attached sheets among them, and the users and tickets it leaves. -/
structure Upshot where
  outcome : FinalStatus
  sent : List Request
  users : List User
  tickets : List Ticket

variable {N : Type} [Network N]

def Live.upshot (kind : JobKind) (left : Nat) (live : Live (Overheard N)) : Upshot :=
  let (result, _, last) := Paging.each Live.run kind.steps left live
  { outcome := outcome result
    sent := last.net.sent
    users := last.snapshot.users
    tickets := last.snapshot.tickets }

namespace Processor

variable {σ τ : Type} [JobStore σ] [JobStore τ]

structure ComesTo (p : Processor σ (Live (Overheard N))) (upshot : Upshot) : Prop where
  ends : ∀ events, p.Unhindered events → 40 ≤ events.countP Event.isTurn →
    ∃ id success, .ended id success ∈ (p.steps events).2
  succeeds : ∀ events, p.Unhindered events → ∀ id success,
    .ended id success ∈ (p.steps events).2 → success = upshot.outcome.isSuccess
  told : ∀ events, p.Unhindered events → ∀ run status, (p.steps events).1.worker = .running run →
    run.closing = true → .record (.close status) ∈ run.todo → status = upshot.outcome
  sent : ∀ events, p.Unhindered events → ∀ id success, .ended id success ∈ (p.steps events).2 →
    (p.steps events).1.world.net.sent = upshot.sent
  users : ∀ events, p.Unhindered events → .called .users ∈ (p.steps events).2 →
    (p.steps events).1.world.snapshot.users = upshot.users
  tickets : ∀ events, p.Unhindered events → .called .tickets ∈ (p.steps events).2 →
    (p.steps events).1.world.snapshot.tickets = upshot.tickets

theorem comesTo {p : Processor σ (Live (Overheard N))} {id : JobId} {number left : Nat}
    {kind : JobKind} (begun : p.worker = .running (Run.begin id number left kind)) :
    p.ComesTo (Live.upshot kind left p.world) := by
  have carried : ∀ events, p.Unhindered events →
      Carried kind left p.world (p.steps events).1 (p.steps events).2
        (0 + events.countP Event.isTurn) :=
    fun events unhindered => (Carried.begin id number begun).steps unhindered.1 unhindered.2
  constructor
  · intro events unhindered enough
    cases carried events unhindered with
    | working _ _ _ _ _ _ _ _ effort => omega
    | finished _ ended _ _ => exact ended
  · intro events unhindered other success ended
    cases carried events unhindered with
    | working _ _ _ _ _ _ _ unended _ => exact absurd ended (unended other success)
    | finished _ _ told _ => exact told other success ended
  · intro events unhindered run status runs closing member
    cases carried events unhindered with
    | working other _ running working _ _ _ _ _ =>
      cases runs.symm.trans running
      cases closing.symm.trans working
    | finished _ _ _ owes => exact ((owes run runs).2 _ member).2 status rfl
  · intro events unhindered other success ended
    cases carried events unhindered with
    | working _ _ _ _ _ _ _ unended _ => exact absurd ended (unended other success)
    | finished world _ _ _ => rw [world]; rfl
  · intro events unhindered called
    cases carried events unhindered with
    | working _ made _ _ plan reached calls _ _ =>
      rw [Live.upshot, plan, Paging.each_append, reached]
      exact (Live.users_settled plan (calls _ called) _ _).symm
    | finished world _ _ _ => rw [world]; rfl
  · intro events unhindered called
    cases carried events unhindered with
    | working _ made _ _ plan reached calls _ _ =>
      rw [Live.upshot, plan, Paging.each_append, reached]
      exact (Live.tickets_settled plan (calls _ called) _ _).symm
    | finished world _ _ _ => rw [world]; rfl

/-- Two runs of one kind of job with the same settings, time and upstream come to the same, whatever
earlier runs have stored and written and whatever the job stores hold. -/
theorem earlier_runs_leave_no_trace (p : Processor σ (Live (Overheard N)))
    (q : Processor τ (Live (Overheard N))) (kind : JobKind) (left : Nat) (id other : JobId)
    (number count : Nat) (begun : p.worker = .running (Run.begin id number left kind))
    (otherBegun : q.worker = .running (Run.begin other count left kind))
    (settings : q.world.settings = p.world.settings) (net : q.world.net = p.world.net)
    (fit : Report.Fit p.world.settings.reportsDir) (ordinary : p.world.folder.Ordinary)
    (otherOrdinary : q.world.folder.Ordinary) :
    ∃ upshot, p.ComesTo upshot ∧ q.ComesTo upshot := by
  refine ⟨Live.upshot kind left p.world, comesTo begun, ?_⟩
  have same : Live.upshot kind left q.world = Live.upshot kind left p.world := by
    have alike := Live.runs_alike kind settings net fit ordinary otherOrdinary left
    simp only [Live.upshot]
    generalize Paging.each Live.run kind.steps left p.world = x at alike ⊢
    generalize Paging.each Live.run kind.steps left q.world = y at alike ⊢
    cases alike with
    | succeed left a b shared => rw [shared.net, shared.users, shared.tickets]
    | fail error left a b shared => rw [shared.net, shared.users, shared.tickets]
  rw [← same]
  exact comesTo otherBegun

def firstRun : Processor History (Live (Overheard Live.Postbox)) :=
  { timeLimit := 60
    store := .withCapacity 1
    world := { settings := { reportsDir := "reports" }, net := { net := {} } }
    worker := .running (Run.begin ⟨1⟩ 1 60 .all)
    runs := 1 }

def laterRun : Processor History (Live (Overheard Live.Postbox)) :=
  { firstRun with
    world :=
      { firstRun.world with
        snapshot := { Live.lookalikes.snapshot with channels := [⟨"c", "Channel"⟩] }
        folder := .present [("ann_lab@x.cz.xlsx", .text ""), ("service-desk.xlsx", .text "")] }
    worker := .running (Run.begin ⟨7⟩ 3 60 .all)
    runs := 3 }

theorem later_run_leaves_no_trace :
    laterRun.world.snapshot ≠ firstRun.world.snapshot ∧
      laterRun.world.folder ≠ firstRun.world.folder ∧
      ∃ upshot, firstRun.ComesTo upshot ∧ laterRun.ComesTo upshot :=
  ⟨by decide, by decide, earlier_runs_leave_no_trace firstRun laterRun .all 60 ⟨1⟩ ⟨7⟩ 1 3 rfl rfl
    rfl rfl (by decide +kernel) (by decide) (by decide)⟩

end Processor

end TicketReports
