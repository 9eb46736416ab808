import TicketReports.Proofs.Processor.Advance

set_option autoImplicit false

namespace TicketReports

namespace Note

def admitted? : Note → Option JobId
  | .admitted id => some id
  | _ => none

def refused? : Note → Option JobId
  | .refused id => some id
  | _ => none

def began? : Note → Option JobId
  | .began id => some id
  | _ => none

def admissions (notes : List Note) : List JobId := notes.filterMap admitted?

def refusals (notes : List Note) : List JobId := notes.filterMap refused?

def beginnings (notes : List Note) : List JobId := notes.filterMap began?

def track (flying : List JobId) : Note → List JobId
  | .began id => flying ++ [id]
  | .ended id _ => flying.erase id
  | _ => flying

/-- The runs that were begun and have not ended. -/
def inFlight (notes : List Note) : List JobId := notes.foldl track []

@[simp] theorem admissions_append (notes later : List Note) :
    admissions (notes ++ later) = admissions notes ++ admissions later :=
  List.filterMap_append

@[simp] theorem refusals_append (notes later : List Note) :
    refusals (notes ++ later) = refusals notes ++ refusals later :=
  List.filterMap_append

@[simp] theorem beginnings_append (notes later : List Note) :
    beginnings (notes ++ later) = beginnings notes ++ beginnings later :=
  List.filterMap_append

theorem inFlight_append (notes later : List Note) :
    inFlight (notes ++ later) = later.foldl track (inFlight notes) :=
  List.foldl_append

def Silent (later : List Note) : Prop :=
  ∀ notes, admissions (notes ++ later) = admissions notes ∧
    beginnings (notes ++ later) = beginnings notes ∧ inFlight (notes ++ later) = inFlight notes

theorem silent_nil : Silent [] := fun notes => by simp

theorem silent_refused (id : JobId) : Silent [.refused id] := fun notes => by
  simp [admissions, admitted?, beginnings, began?, inFlight, track]

theorem silent_refusedStart : Silent [.refusedStart] := fun notes => by
  simp [admissions, admitted?, beginnings, began?, inFlight, track]

theorem silent_closed : Silent [.closed] := fun notes => by
  simp [admissions, admitted?, beginnings, began?, inFlight, track]

end Note

def Event.byCaller : Event → Bool
  | .enter _ => true
  | .leave => true
  | _ => false

namespace Worker

def awaited? : Worker → Option JobId
  | .looking id => some id
  | _ => none

def occupied? : Worker → Option JobId
  | .running run => some run.id
  | .finished id => some id
  | .reopening id => some id
  | _ => none

def flying? : Worker → Option JobId
  | .running run => if run.closing then none else some run.id
  | _ => none

def departed : Worker → Bool
  | .leaving => true
  | .stopped => true
  | _ => false

theorem held?_eq (worker : Worker) : worker.held? = worker.occupied?.or worker.awaited? := by
  cases worker <;> rfl

theorem unheld {worker : Worker} (free : worker.held? = none) :
    worker.awaited? = none ∧ worker.flying? = none ∧ ∀ run, worker ≠ .running run := by
  cases worker <;> simp_all [held?, awaited?, flying?]

end Worker

def Run.Quiet (run : Run) : Prop :=
  run.closing = true → ∀ action ∈ run.todo, action.asks? = none

theorem Run.quiet_close (run : Run) (status : FinalStatus) : (run.close status).Quiet := by
  intro _ action member
  obtain rfl : action = .record (.close status) := by simpa [Run.close] using member
  rfl

theorem Action.silent_calls (action : Action) : Note.Silent action.calls := by
  intro notes
  cases action <;>
    simp [Action.calls, Note.admissions, Note.admitted?, Note.beginnings, Note.began?,
      Note.inFlight, Note.track, List.filterMap_cons]

namespace Processor

variable {σ W : Type}

def pending (p : Processor σ W) : List JobId := p.worker.awaited?.toList ++ p.mailbox.toList

def occupants (p : Processor σ W) : List JobId := p.worker.held?.toList ++ p.mailbox.toList

theorem pending_occupants {p : Processor σ W} {id : JobId} (waits : id ∈ p.pending) :
    id ∈ p.occupants := by
  rcases List.mem_append.mp waits with awaited | sent
  · refine List.mem_append_left _ ?_
    cases worker : p.worker <;> simp_all [Worker.awaited?, Worker.held?]
  · exact List.mem_append_right _ sent

/-- What every order of steps keeps. `notes` is all that was seen so far. -/
structure Admission (p : Processor σ W) (notes : List Note) : Prop where
  queue : Note.admissions notes ++ p.caller.toList = Note.beginnings notes ++ p.pending
  flight : Note.inFlight notes = p.worker.flying?.toList
  begun : ∀ id, p.worker.occupied? = some id → id ∈ Note.beginnings notes
  quiet : ∀ run, p.worker = .running run → run.Quiet
  lone : p.occupants.length ≤ 1
  vacant : p.free = true → p.ready = true → p.occupants = []
  taken : p.worker.started = true → p.stopping = false → (p.free && p.ready) = false →
    p.occupants ≠ []
  unopened : p.worker.started = false → p.ready = false ∧ p.mailbox = none
  locked : p.free = false → p.ready = true
  departing : p.worker.departed = true → p.stopping = true
  gone : p.worker = .stopped → p.ready = false

namespace Admission

variable {p q : Processor σ W} {notes later : List Note}

theorem empty (now : Admission p notes) {id : JobId} (held : p.worker.held? = some id) :
    p.mailbox = none := by
  have lone := now.lone
  rw [occupants, held] at lone
  cases sent : p.mailbox with
  | none => rfl
  | some other => simp [sent] at lone

theorem shift (before : Admission p notes) (ready : q.ready = p.ready)
    (caller : q.caller = p.caller) (mailbox : q.mailbox = p.mailbox)
    (stopping : p.stopping = true → q.stopping = true)
    (held : q.worker.held? = p.worker.held?) (started : q.worker.started = p.worker.started)
    (departed : q.worker.departed = true → q.worker = p.worker)
    (queue : Note.admissions (notes ++ later) ++ q.caller.toList =
      Note.beginnings (notes ++ later) ++ q.pending)
    (flight : Note.inFlight (notes ++ later) = q.worker.flying?.toList)
    (begun : ∀ id, q.worker.occupied? = some id → id ∈ Note.beginnings (notes ++ later))
    (quiet : ∀ run, q.worker = .running run → run.Quiet) : Admission q (notes ++ later) := by
  have occupants : q.occupants = p.occupants := by
    rw [Processor.occupants, Processor.occupants, held, mailbox]
  have free : q.free = p.free := by rw [Processor.free, Processor.free, caller]
  refine ⟨queue, flight, begun, quiet, ?_, ?_, ?_, ?_, ?_, ?_, ?_⟩
  · rw [occupants]; exact before.lone
  · rw [free, ready, occupants]; exact before.vacant
  · intro listens going
    rw [free, ready, occupants]
    refine before.taken (started ▸ listens) ?_
    exact Bool.eq_false_iff.mpr fun stops => by simp [stopping stops] at going
  · rw [started, ready, mailbox]; exact before.unopened
  · rw [free, ready]; exact before.locked
  · intro leaves
    exact stopping (before.departing (departed leaves ▸ leaves))
  · intro stops
    rw [ready]
    exact before.gone ((departed (by rw [stops]; rfl)).symm.trans stops)

theorem idle (before : Admission p notes) (silent : Note.Silent later) (ready : q.ready = p.ready)
    (caller : q.caller = p.caller) (mailbox : q.mailbox = p.mailbox)
    (stopping : p.stopping = true → q.stopping = true)
    (started : q.worker.started = p.worker.started)
    (departed : q.worker.departed = true → q.worker = p.worker)
    (awaited : q.worker.awaited? = p.worker.awaited?)
    (occupied : q.worker.occupied? = p.worker.occupied?)
    (flying : q.worker.flying? = p.worker.flying?)
    (quiet : ∀ run, q.worker = .running run → run.Quiet) : Admission q (notes ++ later) := by
  obtain ⟨admissions, beginnings, flights⟩ := silent notes
  refine before.shift ready caller mailbox stopping ?_ started departed ?_ ?_ ?_ quiet
  · rw [Worker.held?_eq, Worker.held?_eq, awaited, occupied]
  · rw [admissions, beginnings, caller, pending, awaited, mailbox]; exact before.queue
  · rw [flights, flying]; exact before.flight
  · rw [beginnings, occupied]; exact before.begun

theorem noted (before : Admission p notes) (silent : Note.Silent later) :
    Admission p (notes ++ later) :=
  before.idle silent rfl rfl rfl id rfl (fun _ => rfl) rfl rfl rfl before.quiet

theorem enter (before : Admission p notes) (id : JobId) :
    Admission (p.enter id).1 (notes ++ (p.enter id).2) := by
  unfold Processor.enter
  split
  next => exact before.noted Note.silent_nil
  next free =>
    have free : p.free = true := by simpa using free
    split
    next accepts =>
      obtain ⟨⟨ready, empty⟩, receives⟩ : (p.ready = true ∧ p.mailbox = none) ∧
          p.worker.receives = true := by simpa using accepts
      have nobody : p.caller = none := by simpa [Processor.free] using free
      have vacant := before.vacant free ready
      have queue := before.queue
      rw [List.append_nil]
      -- Nothing is on its way, so the new id is alone and last in the queue.
      refine ⟨?_, before.flight, before.begun, before.quiet, ?_, ?_, ?_, ?_, ?_, before.departing,
        before.gone⟩
      · simp only [nobody, pending, empty, Option.toList_none, List.append_nil] at queue
        simp [pending, queue]
      · have held : p.worker.held?.toList = [] := (List.append_eq_nil_iff.mp vacant).1
        simp [occupants, held]
      · intro stillFree
        simp [Processor.free] at stillFree
      · intro _ _ _ none
        simp [occupants] at none
      · intro unstarted
        have closed := (before.unopened unstarted).1
        simp [ready] at closed
      · intro _
        exact ready
    next => exact before.noted (Note.silent_refused id)

theorem leave (before : Admission p notes) : Admission p.leave.1 (notes ++ p.leave.2) := by
  unfold Processor.leave
  split
  next => exact before.noted Note.silent_nil
  next id waiting =>
    have locked : p.free = false := by simp [Processor.free, waiting]
    have queue := before.queue
    refine ⟨?_, ?_, ?_, before.quiet, before.lone, ?_, ?_, ?_, ?_, before.departing, ?_⟩
    · rw [waiting] at queue
      simpa [Note.admissions, Note.beginnings, Note.admitted?, Note.began?, pending,
        List.filterMap_cons] using queue
    · simpa [Note.inFlight, Note.track] using before.flight
    · simpa [Note.beginnings, Note.began?] using before.begun
    · intro _ ready
      cases ready
    · intro started going _
      exact before.taken started going (by rw [locked]; rfl)
    · intro unstarted
      exact ⟨rfl, (before.unopened unstarted).2⟩
    · intro busy
      cases busy
    · intro _
      rfl

theorem start (before : Admission p notes) : Admission p.start.1 (notes ++ p.start.2) := by
  unfold Processor.start
  split
  next absent =>
    refine before.idle Note.silent_nil rfl rfl rfl id ?_ ?_ ?_ ?_ ?_ ?_ <;> simp [absent] <;> rfl
  next => exact before.noted Note.silent_refusedStart

theorem cancel (before : Admission p notes) {run : Run} (running : p.worker = .running run)
    (stopping : Bool) (stops : p.stopping = true → stopping = true) :
    Admission { p with stopping, worker := .running run.cancel } notes := by
  rw [← List.append_nil notes]
  refine before.idle Note.silent_nil rfl rfl rfl stops ?_ ?_ ?_ ?_ ?_ ?_
  · rw [running]; rfl
  · intro departed; cases departed
  · rw [running]; rfl
  · rw [running]; rfl
  · rw [running]; rfl
  · rintro _ ⟨⟩
    exact before.quiet run running

theorem shutdown (before : Admission p notes) :
    Admission p.shutdown.1 (notes ++ p.shutdown.2) := by
  unfold Processor.shutdown
  split
  next => exact before.noted Note.silent_nil
  next run running =>
    rw [List.append_nil]
    exact before.cancel running true fun _ => rfl
  next =>
    exact before.idle Note.silent_nil rfl rfl rfl (fun _ => rfl) rfl (fun _ => rfl) rfl rfl rfl
      before.quiet

theorem expire (before : Admission p notes) : Admission p.expire.1 (notes ++ p.expire.2) := by
  unfold Processor.expire
  split
  next run running =>
    rw [List.append_nil]
    exact before.cancel running p.stopping id
  next => exact before.noted Note.silent_nil

theorem close [Stages W] (before : Admission p notes) :
    Admission p.close.1 (notes ++ p.close.2) := by
  unfold Processor.close
  split
  next =>
    exact before.idle Note.silent_closed rfl rfl rfl id rfl (fun _ => rfl) rfl rfl rfl before.quiet
  next => exact before.noted Note.silent_nil

theorem prepare (before : Admission p notes) (worker : Worker) (store : σ)
    (unstarted : p.worker.started = false) (still : worker.started = false)
    (present : worker.departed = false) : Admission { p with store, worker } notes := by
  have free : ∀ worker : Worker, worker.started = false →
      worker.awaited? = none ∧ worker.occupied? = none ∧ worker.flying? = none := by
    intro worker
    cases worker <;> simp [Worker.started, Worker.awaited?, Worker.occupied?, Worker.flying?]
  obtain ⟨awaited, occupied, flying⟩ := free _ unstarted
  obtain ⟨awaited', occupied', flying'⟩ := free _ still
  rw [← List.append_nil notes]
  refine before.idle Note.silent_nil rfl rfl rfl id ?_ ?_ ?_ ?_ ?_ ?_
  · rw [unstarted]; exact still
  · intro departed
    rw [show worker.departed = true from departed] at present
    cases present
  · rw [awaited]; exact awaited'
  · rw [occupied]; exact occupied'
  · rw [flying]; exact flying'
  · rintro run rfl
    cases still

theorem looping (started : p.worker.started = true) (present : p.worker.departed = false)
    (queue : Note.admissions notes ++ p.caller.toList = Note.beginnings notes ++ p.pending)
    (flight : Note.inFlight notes = p.worker.flying?.toList)
    (begun : ∀ id, p.worker.occupied? = some id → id ∈ Note.beginnings notes)
    (quiet : ∀ run, p.worker = .running run → run.Quiet) (lone : p.occupants.length ≤ 1)
    (vacant : p.free = true → p.ready = true → p.occupants = [])
    (taken : p.stopping = false → (p.free && p.ready) = false → p.occupants ≠ [])
    (locked : p.free = false → p.ready = true) : Admission p notes where
  queue := queue
  flight := flight
  begun := begun
  quiet := quiet
  lone := lone
  vacant := vacant
  taken := fun _ => taken
  unopened := fun unstarted => by simp [started] at unstarted
  locked := locked
  departing := fun departed => by simp [present] at departed
  gone := fun stopped => by simp [stopped, Worker.departed] at present

theorem opened (before : Admission p notes) (free : p.free = true) (empty : p.mailbox = none)
    (awaited : p.worker.awaited? = none) (flying : p.worker.flying? = none) :
    Admission { p with ready := true, worker := .listening } notes := by
  have queue := before.queue
  have flight := before.flight
  rw [pending, awaited] at queue
  rw [flying] at flight
  refine looping rfl rfl ?_ ?_ ?_ ?_ ?_ ?_ ?_ ?_
  · simpa [pending, Worker.awaited?] using queue
  · simpa [Worker.flying?] using flight
  · simp [Worker.occupied?]
  · simp
  · simp [occupants, Worker.held?, empty]
  · simp [occupants, Worker.held?, empty]
  · intro _ shut
    have open' : p.free = false := by simpa [Processor.free] using shut
    simp [free] at open'
  · intro _
    rfl

theorem leavingLoop (before : Admission p notes) (listening : p.worker = .listening)
    (stopping : p.stopping = true) : Admission { p with worker := .leaving } notes where
  queue := by simpa [pending, listening, Worker.awaited?] using before.queue
  flight := by simpa [listening, Worker.flying?] using before.flight
  begun := by simp [Worker.occupied?]
  quiet := by simp
  lone := by simp [occupants, Worker.held?]
  vacant := by simpa [Processor.free, occupants, listening, Worker.held?] using before.vacant
  taken := fun _ going => by simp [stopping] at going
  unopened := fun unstarted => by cases unstarted
  locked := before.locked
  departing := fun _ => stopping
  gone := fun stopped => by cases stopped

theorem stopped (before : Admission p notes) (leaving : p.worker = .leaving)
    (free : p.free = true) : Admission { p with ready := false, worker := .stopped } notes where
  queue := by simpa [pending, leaving, Worker.awaited?] using before.queue
  flight := by simpa [leaving, Worker.flying?] using before.flight
  begun := by simp [Worker.occupied?]
  quiet := by simp
  lone := by simp [occupants, Worker.held?]
  vacant := by simp
  taken := fun _ going => by
    -- The worker leaves its loop only when it is told to stop.
    have stopping := before.departing (by rw [leaving]; rfl)
    simp [stopping] at going
  unopened := fun unstarted => by cases unstarted
  locked := fun busy => by
    have taken : p.free = false := busy
    simp [free] at taken
  departing := fun _ => before.departing (by rw [leaving]; rfl)
  gone := fun _ => rfl

theorem received (before : Admission p notes) (listening : p.worker = .listening) {id : JobId}
    (sent : p.mailbox = some id) :
    Admission { p with mailbox := none, worker := .looking id } notes := by
  refine looping rfl rfl ?_ ?_ ?_ ?_ ?_ ?_ ?_ before.locked
  · simpa [pending, listening, Worker.awaited?, sent] using before.queue
  · simpa [listening, Worker.flying?] using before.flight
  · simp [Worker.occupied?]
  · simp
  · simp [occupants, Worker.held?]
  · intro free ready
    have vacant := before.vacant free ready
    simp [occupants, sent] at vacant
  · simp [occupants, Worker.held?]

theorem listen (before : Admission p notes) (listening : p.worker = .listening) (away : Bool) :
    Admission (p.listen away) notes := by
  unfold Processor.listen
  split
  next leaves =>
    have both : away = true ∧ p.stopping = true := by simpa using leaves
    exact before.leavingLoop listening both.2
  next =>
    split
    next id sent => exact before.received listening sent
    next => exact before

theorem lookUp [JobStore σ] (before : Admission p notes) {id : JobId}
    (looking : p.worker = .looking id) :
    Admission (p.lookUp id).1 (notes ++ (p.lookUp id).2) := by
  unfold Processor.lookUp
  have queue := before.queue
  -- The id moves from those that wait to those that were begun.
  refine before.shift rfl rfl rfl (fun stops => stops) ?_ ?_ ?_ ?_ ?_ ?_ ?_
  · rw [looking]; rfl
  · rw [looking]; rfl
  · intro departed
    cases departed
  · rw [pending, looking] at queue
    simpa [Note.admissions, Note.beginnings, Note.admitted?, Note.began?, pending,
      Worker.awaited?, List.filterMap_cons] using queue
  · have flight : Note.inFlight notes = [] := by
      simpa [looking, Worker.flying?] using before.flight
    simp [Note.inFlight_append, flight, Note.track, Worker.flying?, Run.begin]
  · simp [Worker.occupied?, Run.begin, Note.beginnings, Note.began?]
  · rintro run ⟨⟩ closing
    cases closing

theorem stays (before : Admission p notes) {run next : Run} (running : p.worker = .running run)
    (silent : Note.Silent later) (worker : q.worker = .running next) (same : next.id = run.id)
    (closing : next.closing = run.closing) (quiet : next.Quiet) (ready : q.ready = p.ready)
    (caller : q.caller = p.caller) (mailbox : q.mailbox = p.mailbox)
    (stopping : q.stopping = p.stopping) : Admission q (notes ++ later) := by
  refine before.idle silent ready caller mailbox (fun stops => stopping.trans stops) ?_ ?_ ?_ ?_ ?_
    ?_
  · rw [worker, running]; rfl
  · intro departed
    rw [worker] at departed
    cases departed
  · rw [worker, running]; rfl
  · rw [worker, running, Worker.occupied?, same]; rfl
  · rw [worker, running, Worker.flying?, same, closing]; rfl
  · intro other is
    rw [worker] at is
    cases is
    exact quiet

theorem ends (before : Admission p notes) {run next : Run} (running : p.worker = .running run)
    (working : run.closing = false) (silent : Note.Silent later) (success : Bool)
    (worker : q.worker = .running next) (same : next.id = run.id) (closing : next.closing = true)
    (quiet : next.Quiet) (ready : q.ready = p.ready) (caller : q.caller = p.caller)
    (mailbox : q.mailbox = p.mailbox) (stopping : q.stopping = p.stopping) :
    Admission q (notes ++ (later ++ [.ended run.id success])) := by
  obtain ⟨admissions, beginnings, flights⟩ := silent notes
  have queue := before.queue
  have flight : Note.inFlight notes = [run.id] := by
    simpa [running, Worker.flying?, working] using before.flight
  have begun : run.id ∈ Note.beginnings notes := before.begun run.id (by rw [running]; rfl)
  -- The end of a run is no admission and no beginning.
  have ledger : Note.admissions (notes ++ (later ++ [.ended run.id success])) =
        Note.admissions notes ∧
      Note.beginnings (notes ++ (later ++ [.ended run.id success])) = Note.beginnings notes := by
    rw [← List.append_assoc, Note.admissions_append, Note.beginnings_append, admissions, beginnings]
    simp [Note.admissions, Note.beginnings, Note.admitted?, Note.began?]
  refine before.shift ready caller mailbox (fun stops => stopping.trans stops) ?_ ?_ ?_ ?_ ?_ ?_ ?_
  · rw [worker, running, Worker.held?, same]; rfl
  · rw [worker, running]; rfl
  · intro departed
    rw [worker] at departed
    cases departed
  · rw [pending, running] at queue
    rw [ledger.1, ledger.2, caller, pending, worker, mailbox]
    exact queue
  · rw [← List.append_assoc, Note.inFlight_append, flights, flight, worker]
    simp [Note.track, Worker.flying?, closing]
  · intro id holds
    rw [worker, Worker.occupied?, same] at holds
    cases holds
    rw [ledger.2]
    exact begun
  · intro other is
    rw [worker] at is
    cases is
    exact quiet

theorem retired (before : Admission p notes) {run : Run} (running : p.worker = .running run)
    (closing : run.closing = true) : Admission { p with worker := .finished run.id } notes := by
  rw [← List.append_nil notes]
  refine before.idle Note.silent_nil rfl rfl rfl (fun stops => stops) ?_ ?_ ?_ ?_ ?_ ?_
  · rw [running]; rfl
  · intro departed
    cases departed
  · rw [running]; rfl
  · rw [running]; rfl
  · rw [running, Worker.flying?, closing]; rfl
  · simp

theorem advance [JobStore σ] [Stages W] (before : Admission p notes) {run : Run}
    (running : p.worker = .running run) (now : Timestamp) :
    Admission (p.advance run now).1 (notes ++ (p.advance run now).2) := by
  have quiet := before.quiet run running
  -- Only a run without outcome asks the collaborators for anything.
  have working : ∀ {action rest step}, run.todo = action :: rest → action.asks? = some step →
      run.closing = false := by
    intro action rest step todo asks
    refine Bool.eq_false_iff.mpr fun closing => ?_
    have silent := quiet closing action (by simp [todo])
    simp [silent] at asks
  -- What is left to do is quiet if all of it was.
  have fewer : ∀ {action rest}, run.todo = action :: rest → ∀ {left : Nat},
      ({ run with left, todo := rest } : Run).Quiet := by
    intro action rest todo left closing other member
    exact quiet closing other (by simp [todo, show other ∈ rest from member])
  have spec := p.advance_spec run now
  generalize (p.advance run now).1 = q, (p.advance run now).2 = later at spec
  cases spec with
  | retire spent closing =>
    rw [List.append_nil]
    exact before.retired running closing
  | succeed spent open' =>
    exact before.ends running open' Note.silent_nil true rfl rfl rfl (run.quiet_close _) rfl rfl
      rfl rfl
  | done action step rest left world todo asks answer =>
    exact before.stays running action.silent_calls rfl rfl rfl (fewer todo) rfl rfl rfl rfl
  | wait action step rest left world todo asks answer =>
    refine before.stays running action.silent_calls rfl rfl rfl ?_ rfl rfl rfl rfl
    intro closing
    simp [working todo asks] at closing
  | fail action step rest left world error todo asks answer =>
    exact before.ends running (working todo asks) action.silent_calls false rfl rfl rfl
      (Run.quiet_close _ _) rfl rfl rfl rfl
  | panic action step rest left world detail todo asks answer =>
    exact before.ends running (working todo asks) action.silent_calls false rfl rfl rfl
      (Run.quiet_close _ _) rfl rfl rfl rfl
  | missing change rest error store todo answer =>
    exact before.stays running Note.silent_nil rfl rfl rfl (fewer todo) rfl rfl rfl rfl
  | declined change rest job error store todo answer applied =>
    exact before.stays running Note.silent_nil rfl rfl rfl (fewer todo) rfl rfl rfl rfl
  | changed change rest job next store todo answer applied =>
    refine before.stays running Note.silent_nil rfl rfl rfl ?_ rfl rfl rfl rfl
    intro closing other member
    rcases List.mem_cons.mp member with rfl | member
    · rfl
    · exact @fewer _ _ todo run.left closing other member
  | saved job rest todo =>
    exact before.stays running Note.silent_nil rfl rfl rfl (fewer todo) rfl rfl rfl rfl

theorem complete (before : Admission p notes) {id : JobId} (finished : p.worker = .finished id) :
    Admission { p with worker := if p.stopping then .listening else .reopening id } notes := by
  have queue := before.queue
  have flight := before.flight
  rw [pending, finished] at queue
  rw [finished] at flight
  by_cases stopping : p.stopping = true
  · rw [if_pos stopping]
    have empty := before.empty (by rw [finished]; rfl)
    refine looping rfl rfl queue flight ?_ ?_ ?_ ?_ ?_ before.locked
    · simp [Worker.occupied?]
    · simp
    · simp [occupants, Worker.held?, empty]
    · simp [occupants, Worker.held?, empty]
    · intro going
      simp [stopping] at going
  · rw [if_neg stopping, ← List.append_nil notes]
    refine before.idle Note.silent_nil rfl rfl rfl (fun stops => stops) ?_ ?_ ?_ ?_ ?_ ?_
    · rw [finished]; rfl
    · intro departed
      cases departed
    · rw [finished]; rfl
    · rw [finished]; rfl
    · rw [finished]; rfl
    · simp

theorem survey [JobStore σ] (before : Admission p notes) (surveying : p.worker = .surveying) :
    Admission p.survey notes := by
  have unstarted : p.worker.started = false := by rw [surveying]; rfl
  unfold Processor.survey
  split
  next stranded store _ => exact before.prepare (.reclaiming stranded) store unstarted rfl rfl
  next error store _ => exact before.prepare .opening store unstarted rfl rfl

theorem reclaim [JobStore σ] (before : Admission p notes) {stranded : List Job}
    (reclaiming : p.worker = .reclaiming stranded) : Admission (p.reclaim stranded) notes := by
  have unstarted : p.worker.started = false := by rw [reclaiming]; rfl
  unfold Processor.reclaim
  split
  next => exact before.prepare .opening p.store unstarted rfl rfl
  next job rest =>
    split
    next error _ => exact before.prepare (.reclaiming rest) p.store unstarted rfl rfl
    next closed _ => exact before.prepare (.reclaiming rest) _ unstarted rfl rfl

theorem work [JobStore σ] [Stages W] (before : Admission p notes) (away : Bool)
    (now : Timestamp) : Admission (p.work away now).1 (notes ++ (p.work away now).2) := by
  unfold Processor.work
  split
  next absent => exact before.noted Note.silent_nil
  next surveying =>
    rw [List.append_nil]
    exact before.survey surveying
  next stranded reclaiming =>
    rw [List.append_nil]
    exact before.reclaim reclaiming
  next opening =>
    rw [List.append_nil, setReady]
    split
    next free =>
      have empty := (before.unopened (by rw [opening]; rfl)).2
      exact before.opened free empty (by rw [opening]; rfl) (by rw [opening]; rfl)
    next => exact before
  next listening =>
    rw [List.append_nil]
    exact before.listen listening away
  next id looking => exact before.lookUp looking
  next run running => exact before.advance running now
  next id finished =>
    rw [List.append_nil]
    exact before.complete finished
  next id reopening =>
    rw [List.append_nil, setReady]
    split
    next free =>
      have empty := before.empty (by rw [reopening]; rfl)
      exact before.opened free empty (by rw [reopening]; rfl) (by rw [reopening]; rfl)
    next => exact before
  next leaving =>
    rw [List.append_nil, setReady]
    split
    next free => exact before.stopped leaving free
    next => exact before
  next => exact before.noted Note.silent_nil

theorem step [JobStore σ] [Stages W] (before : Admission p notes) (event : Event) :
    Admission (p.step event).1 (notes ++ (p.step event).2) := by
  cases event with
  | enter id => exact before.enter id
  | leave => exact before.leave
  | start => exact before.start
  | work away now => exact before.work away now
  | expire => exact before.expire
  | shutdown => exact before.shutdown
  | close => exact before.close

theorem steps [JobStore σ] [Stages W] (before : Admission p notes) (events : List Event) :
    Admission (p.steps events).1 (notes ++ (p.steps events).2) := by
  induction events generalizing p notes with
  | nil => exact before.noted Note.silent_nil
  | cons event events ih =>
    have next := ih (before.step event)
    rwa [List.append_assoc] at next

theorem new (timeLimit : Nat) (store : σ) (world : W) :
    Admission (Processor.new timeLimit store world) [] := by
  constructor <;>
    simp [Processor.new, pending, occupants, Processor.free, Note.admissions, Note.beginnings,
      Note.inFlight, Worker.awaited?, Worker.flying?, Worker.occupied?, Worker.held?,
      Worker.started, Worker.departed]

theorem reached [JobStore σ] [Stages W] (timeLimit : Nat) (store : σ) (world : W)
    (events : List Event) :
    Admission ((Processor.new timeLimit store world).steps events).1
      ((Processor.new timeLimit store world).steps events).2 := by
  simpa using (new timeLimit store world).steps events

theorem aside {τ : Type} (before : Admission p notes) (store : τ) (counters : Counters) :
    Admission
      { timeLimit := p.timeLimit, store, world := p.world, ready := p.ready, caller := p.caller,
        mailbox := p.mailbox, worker := p.worker, stopping := p.stopping, closed := p.closed,
        counters, runs := p.runs : Processor τ W } notes :=
  ⟨before.queue, before.flight, before.begun, before.quiet, before.lone, before.vacant,
    before.taken, before.unopened, before.locked, before.departing, before.gone⟩

theorem flying_held (now : Admission p notes) (id : JobId) (flies : id ∈ Note.inFlight notes) :
    p.worker.held? = some id := by
  rw [now.flight] at flies
  cases worker : p.worker with
  | running run =>
    rw [worker, Worker.flying?] at flies
    by_cases closing : run.closing = true
    · simp [closing] at flies
    · simp only [closing] at flies
      simpa [Worker.held?, eq_comm] using flies
  | _ => simp [worker, Worker.flying?] at flies

theorem sole (now : Admission p notes) : (Note.inFlight notes).length ≤ 1 := by
  rw [now.flight]
  cases p.worker.flying? <;> simp

theorem accepted (now : Admission p notes) {id : JobId} (on : id ∈ p.occupants) :
    id ∈ Note.admissions notes ++ p.caller.toList := by
  rw [now.queue]
  rw [occupants, Worker.held?_eq] at on
  rcases List.mem_append.mp on with held | sent
  · have either := Option.mem_toList.mp held
    rcases Option.or_eq_some_iff.mp either with occupied | ⟨_, awaited⟩
    · exact List.mem_append_left _ (now.begun id occupied)
    · exact List.mem_append_right _ (by simp [pending, awaited])
  · exact List.mem_append_right _ (by simp [pending, Option.mem_toList.mp sent])

theorem held_admitted (now : Admission p notes) (free : p.free = true) (id : JobId)
    (on : id ∈ p.occupants) : id ∈ Note.admissions notes := by
  have nobody : p.caller = none := by simpa [Processor.free] using free
  simpa [nobody] using now.accepted on

theorem deserted (now : Admission p notes) (free : p.free = true) (ready : p.ready = true) :
    p.worker.held? = none ∧ p.mailbox = none := by
  have vacant := now.vacant free ready
  rw [occupants, List.append_eq_nil_iff] at vacant
  simpa using vacant

theorem all_begun (now : Admission p notes) (free : p.free = true) (served : p.pending = []) :
    Note.admissions notes = Note.beginnings notes := by
  have nobody : p.caller = none := by simpa [Processor.free] using free
  simpa [nobody, served] using now.queue

theorem begun_prefix (now : Admission p notes) (free : p.free = true) :
    Note.beginnings notes <+: Note.admissions notes := by
  have nobody : p.caller = none := by simpa [Processor.free] using free
  have queue := now.queue
  rw [nobody, Option.toList_none, List.append_nil] at queue
  rw [queue]
  exact List.prefix_append _ _

theorem enter_open (now : Admission p notes) (free : p.free = true) (ready : p.ready = true)
    (id : JobId) : p.enter id = ({ p with mailbox := some id, caller := some id }, []) := by
  have empty : p.mailbox = none := by
    have vacant := now.vacant free ready
    rw [occupants, List.append_eq_nil_iff] at vacant
    simpa using vacant.2
  have receives : p.worker.receives = true := by
    cases worker : p.worker with
    | stopped =>
      have shut := now.gone worker
      simp [ready] at shut
    | _ => rfl
  simp [Processor.enter, free, ready, empty, receives]

end Admission

theorem Advance.beginnings [JobStore σ] [Stages W] {p q : Processor σ W} {run : Run}
    {now : Timestamp} {notes : List Note} (advance : Advance p run now q notes) :
    Note.beginnings notes = [] := by
  have calls : ∀ action : Action, Note.beginnings action.calls = [] :=
    fun action => (action.silent_calls []).2.1
  cases advance with
  | done action step rest left world todo asks answer => exact calls action
  | wait action step rest left world todo asks answer => exact calls action
  | fail action step rest left world error todo asks answer =>
    rw [Note.beginnings_append, calls]
    rfl
  | panic action step rest left world detail todo asks answer =>
    rw [Note.beginnings_append, calls]
    rfl
  | _ => rfl

theorem enter_free {p : Processor σ W} (free : p.free = true) (id : JobId) :
    p.enter id = ({ p with mailbox := some id, caller := some id }, []) ∨
      p.enter id = (p, [.refused id]) := by
  rw [enter, free]
  by_cases accepts : (p.ready && p.mailbox.isNone && p.worker.receives) = true
  · exact .inl (by simp [accepts])
  · exact .inr (by simp [accepts])

theorem leave_frees (p : Processor σ W) :
    ∃ ready, p.leave.1 = { p with ready, caller := none } := by
  unfold leave
  split
  next nobody => exact ⟨p.ready, by rw [← nobody]⟩
  next => exact ⟨false, rfl⟩

theorem enter_filled {p : Processor σ W} (free : p.free = true) {id : JobId}
    (filled : p.enter id = ({ p with mailbox := some id, caller := some id }, [])) :
    p.ready = true ∧ p.mailbox = none := by
  by_cases accepts : (p.ready && p.mailbox.isNone && p.worker.receives) = true
  · simp only [Bool.and_eq_true, Option.isNone_iff_eq_none] at accepts
    exact accepts.1
  · simp [enter, free, accepts] at filled

theorem calls_apart (action : Action) :
    Note.admissions action.calls = [] ∧ Note.refusals action.calls = [] := by
  cases action <;> exact ⟨rfl, rfl⟩

theorem Turn.apart [JobStore σ] [Stages W] {p q : Processor σ W} {away : Bool} {now : Timestamp}
    {notes : List Note} (turn : Turn p away now q notes) :
    q.caller = p.caller ∧ Note.admissions notes = [] ∧ Note.refusals notes = [] := by
  cases turn with
  | advanced run q notes running advance =>
    cases advance with
    | done action step rest left world todo asks answer => exact ⟨rfl, calls_apart action⟩
    | wait action step rest left world todo asks answer => exact ⟨rfl, calls_apart action⟩
    | fail action step rest left world error todo asks answer =>
      rw [Note.admissions_append, Note.refusals_append, (calls_apart action).1,
        (calls_apart action).2]
      exact ⟨rfl, rfl, rfl⟩
    | panic action step rest left world detail todo asks answer =>
      rw [Note.admissions_append, Note.refusals_append, (calls_apart action).1,
        (calls_apart action).2]
      exact ⟨rfl, rfl, rfl⟩
    | _ => exact ⟨rfl, rfl, rfl⟩
  | _ => exact ⟨rfl, rfl, rfl⟩

theorem work_idle [JobStore σ] [Stages W] (p : Processor σ W) (away : Bool) (now : Timestamp)
    (sought : ∀ id, p.worker ≠ .looking id) (idle : ∀ run, p.worker ≠ .running run) :
    (p.work away now).2 = [] ∧ (p.work away now).1.world = p.world ∧
      (∀ run, (p.work away now).1.worker ≠ .running run) ∧
      (p.work away now).1.pending = p.pending ∧
      (p.worker.started = true → (p.work away now).1.store = p.store) := by
  have turn := p.work_spec away now
  generalize (p.work away now).1 = q, (p.work away now).2 = notes at turn
  cases turn with
  | rests => exact ⟨rfl, rfl, idle, rfl, fun _ => rfl⟩
  | listens => exact ⟨rfl, rfl, idle, rfl, fun _ => rfl⟩
  | blocked => exact ⟨rfl, rfl, idle, rfl, fun _ => rfl⟩
  | surveyed stranded store worker =>
    refine ⟨rfl, rfl, nofun, ?_, ?_⟩ <;> simp [pending, worker, Worker.awaited?, Worker.started]
  | unsurveyed error store worker =>
    refine ⟨rfl, rfl, nofun, ?_, ?_⟩ <;> simp [pending, worker, Worker.awaited?, Worker.started]
  | cleared worker =>
    exact ⟨rfl, rfl, nofun, by simp [pending, worker, Worker.awaited?], fun _ => rfl⟩
  | passedOver job rest error worker =>
    exact ⟨rfl, rfl, nofun, by simp [pending, worker, Worker.awaited?], fun _ => rfl⟩
  | reclaimed job closed rest worker =>
    refine ⟨rfl, rfl, nofun, ?_, ?_⟩ <;> simp [pending, worker, Worker.awaited?, Worker.started]
  | opened free opens =>
    have nothing : p.worker.awaited? = none := by
      rcases opens with worker | ⟨id, worker⟩ <;> rw [worker] <;> rfl
    exact ⟨rfl, rfl, nofun, by rw [pending, pending, nothing]; rfl, fun _ => rfl⟩
  | leaves worker =>
    exact ⟨rfl, rfl, nofun, by simp [pending, worker, Worker.awaited?], fun _ => rfl⟩
  | received id worker sent =>
    exact ⟨rfl, rfl, nofun, by simp [pending, worker, sent, Worker.awaited?], fun _ => rfl⟩
  | began id looking => exact absurd looking (sought id)
  | advanced run q notes running => exact absurd running (idle run)
  | completed id worker =>
    dsimp only
    split <;> exact ⟨rfl, rfl, nofun, by simp [pending, worker, Worker.awaited?], fun _ => rfl⟩
  | stopped free worker =>
    exact ⟨rfl, rfl, nofun, by simp [pending, worker, Worker.awaited?], fun _ => rfl⟩

theorem step_apart [JobStore σ] [Stages W] (p : Processor σ W) (event : Event)
    (apart : event.byCaller = false) :
    (p.step event).1.caller = p.caller ∧ Note.admissions (p.step event).2 = [] ∧
      Note.refusals (p.step event).2 = [] := by
  have move := p.step_spec event
  generalize (p.step event).1 = q, (p.step event).2 = later at move
  cases move with
  | worked away now q notes turn => exact turn.apart
  | barred => cases apart
  | refused => cases apart
  | filled => cases apart
  | admitted => cases apart
  | _ => exact ⟨rfl, rfl, rfl⟩

theorem step_beside [JobStore σ] [Stages W] (p : Processor σ W) {event : Event}
    (idle : ∀ away now, event ≠ .work away now) :
    (p.step event).1.store = p.store ∧ Note.beginnings (p.step event).2 = [] := by
  have move := p.step_spec event
  generalize (p.step event).1 = q, (p.step event).2 = later at move
  cases move with
  | worked away now => exact absurd rfl (idle away now)
  | _ => exact ⟨rfl, rfl⟩

theorem step_store [JobStore σ] [Stages W] (p : Processor σ W) {event : Event}
    (idle : ∀ away now, event ≠ .work away now) : (p.step event).1.store = p.store :=
  (p.step_beside idle).1

theorem Turn.started [JobStore σ] [Stages W] {p q : Processor σ W} {away : Bool} {now : Timestamp}
    {notes : List Note} (turn : Turn p away now q notes) (started : p.worker.started = true) :
    q.worker.started = true := by
  cases turn with
  | rests => exact started
  | listens => exact started
  | blocked => exact started
  | surveyed stranded store surveying => simp [surveying, Worker.started] at started
  | unsurveyed error store surveying => simp [surveying, Worker.started] at started
  | cleared reclaiming => simp [reclaiming, Worker.started] at started
  | passedOver job rest error reclaiming => simp [reclaiming, Worker.started] at started
  | reclaimed job closed rest reclaiming => simp [reclaiming, Worker.started] at started
  | advanced run q notes running advance => cases advance <;> rfl
  | completed =>
    dsimp only
    split <;> rfl
  | _ => rfl

theorem step_started [JobStore σ] [Stages W] (p : Processor σ W) (event : Event)
    (started : p.worker.started = true) : (p.step event).1.worker.started = true := by
  have move := p.step_spec event
  generalize (p.step event).1 = q, (p.step event).2 = later at move
  cases move with
  | worked away now q notes turn => exact turn.started started
  | started absent => simp [absent, Worker.started] at started
  | expired => rfl
  | calledOff => rfl
  | _ => exact started

theorem step_early [JobStore σ] [Stages W] (p : Processor σ W) (event : Event)
    (unstarted : (p.step event).1.worker.started = false) : p.worker.started = false :=
  Bool.eq_false_iff.mpr fun started => by simp [p.step_started event started] at unstarted

/-- At most one run is in flight, admission is open only while nothing is on its way, and jobs are
run in the order of their admission. -/
theorem single_flight [JobStore σ] [Stages W] (timeLimit : Nat) (store : σ) (world : W)
    (events : List Event) :
    let p := ((Processor.new timeLimit store world).steps events).1
    let notes := ((Processor.new timeLimit store world).steps events).2
    (Note.inFlight notes).length ≤ 1 ∧ (∀ id ∈ Note.inFlight notes, p.worker.held? = some id) ∧
      (p.free = true →
        (p.ready = true →
          p.mailbox = none ∧ p.worker.held? = none ∧ Note.inFlight notes = [] ∧
            ∀ id, p.enter id = ({ p with mailbox := some id, caller := some id }, [])) ∧
        (p.ready = false → p.worker.started = true → p.stopping = false →
          ∃ id ∈ Note.admissions notes,
            (p.mailbox = some id ∧ p.worker.held? = none) ∨
              (p.mailbox = none ∧ p.worker.held? = some id)) ∧
        Note.beginnings notes <+: Note.admissions notes) := by
  intro p notes
  have now : Admission p notes := Admission.reached timeLimit store world events
  refine ⟨now.sole, now.flying_held, fun free => ⟨fun ready => ?_, fun shut started going => ?_,
    now.begun_prefix free⟩⟩
  · have vacant := now.vacant free ready
    rw [occupants, List.append_eq_nil_iff] at vacant
    have held : p.worker.held? = none := by simpa using vacant.1
    refine ⟨by simpa using vacant.2, held, ?_, now.enter_open free ready⟩
    refine List.eq_nil_iff_forall_not_mem.mpr fun id flies => ?_
    simp [now.flying_held id flies] at held
  · have taken := now.taken started going (by rw [shut, Bool.and_false])
    have lone := now.lone
    have admitted := now.held_admitted free
    rw [occupants] at taken lone admitted
    cases sent : p.mailbox with
    | none =>
      cases held : p.worker.held? with
      | none => simp [sent, held] at taken
      | some id => exact ⟨id, admitted id (by simp [held]), .inr ⟨rfl, rfl⟩⟩
    | some id =>
      cases held : p.worker.held? with
      | none => exact ⟨id, admitted id (by simp [sent]), .inl ⟨rfl, rfl⟩⟩
      | some other => simp [sent, held] at lone

end Processor

end TicketReports
