import TicketReports.Proofs.Processor.Segments

set_option autoImplicit false

namespace TicketReports

namespace Processor

variable {σ W : Type}

def taken? (p : Processor σ W) : Event → Option JobId
  | .enter id => if p.free then (p.enter id).1.caller else none
  | _ => none

section Admitting

variable [JobStore σ] [Stages W] {p : Processor σ W} {notes : List Note}

def takes (p : Processor σ W) : List Event → List JobId
  | [] => []
  | event :: events => (p.taken? event).toList ++ (p.step event).1.takes events

theorem step_takes (p : Processor σ W) (event : Event) :
    p.caller.toList ++ (p.taken? event).toList =
      Note.admissions (p.step event).2 ++ (p.step event).1.caller.toList := by
  have move := p.step_spec event
  generalize (p.step event).1 = q, (p.step event).2 = notes at move
  cases move with
  | passed event calm =>
    cases event with
    | enter id => exact absurd rfl (calm id)
    | _ => simp [taken?, Note.admissions]
  | barred id taken => simp [taken?, taken, Note.admissions]
  | refused id free shut =>
    have nobody : p.caller = none := by simpa [Processor.free] using free
    have silent : Note.admissions [.refused id] = [] := rfl
    simp [taken?, enter, free, shut, nobody, silent]
  | filled id free ready empty receives =>
    have nobody : p.caller = none := by simpa [Processor.free] using free
    simp [taken?, enter, free, ready, empty, receives, nobody, Note.admissions]
  | admitted id calls => simp [taken?, calls, Note.admissions, Note.admitted?]
  | worked away now q notes turn => simp [taken?, turn.apart]
  | _ => simp [taken?, Note.admissions, Note.admitted?]

theorem steps_takes (p : Processor σ W) (events : List Event) :
    p.caller.toList ++ p.takes events =
      Note.admissions (p.steps events).2 ++ (p.steps events).1.caller.toList := by
  induction events generalizing p with
  | nil => simp [takes, steps, Note.admissions]
  | cons event events ih =>
    rw [takes, ← List.append_assoc, p.step_takes event, List.append_assoc, ih, steps]
    dsimp only
    rw [Note.admissions_append, List.append_assoc]

theorem Turn.flags {q : Processor σ W} {away : Bool} {now : Timestamp}
    (turn : Turn p away now q notes) : q.stopping = p.stopping ∧ q.closed = p.closed := by
  cases turn with
  | advanced run q notes running advance => cases advance <;> exact ⟨rfl, rfl⟩
  | _ => exact ⟨rfl, rfl⟩

theorem step_flags (p : Processor σ W) (event : Event) :
    (p.stopping = true → (p.step event).1.stopping = true) ∧
      ((p.step event).1.closed = true → p.closed = true ∨ p.worker = .stopped) := by
  have move := p.step_spec event
  generalize (p.step event).1 = q, (p.step event).2 = notes at move
  cases move with
  | worked away now q notes turn =>
    rw [turn.flags.1, turn.flags.2]
    exact ⟨id, .inl⟩
  | calledOff => exact ⟨fun _ => rfl, .inl⟩
  | told => exact ⟨fun _ => rfl, .inl⟩
  | closed _ stopped => exact ⟨id, fun _ => .inr stopped⟩
  | _ => exact ⟨id, .inl⟩

/-- Admission is shut, and the worker is past the last place where it would open it again. -/
structure Shut (p : Processor σ W) : Prop where
  stopping : p.stopping = true
  started : p.worker.started = true
  shut : p.free = true → p.ready = false
  settled : ∀ id, p.worker ≠ .reopening id

namespace Shut

omit [JobStore σ] [Stages W] in
theorem refuses (closed : Shut p) (id : JobId) : (p.enter id).1 = p := by
  by_cases free : p.free = true
  · rcases p.enter_free free id with filled | refused
    · have opened := (enter_filled free filled).1
      rw [closed.shut free] at opened
      cases opened
    · rw [refused]
  · simp [enter, free]

omit [JobStore σ] [Stages W] in
theorem taken?_eq (closed : Shut p) (event : Event) : p.taken? event = none := by
  cases event with
  | enter id =>
    rw [taken?, closed.refuses id]
    by_cases free : p.free = true
    · rw [if_pos free]
      simpa [Processor.free] using free
    · rw [if_neg free]
  | _ => rfl

theorem turn (closed : Shut p) {q : Processor σ W} {away : Bool} {now : Timestamp}
    (turn : Turn p away now q notes) (started : q.worker.started = true) : Shut q := by
  have ⟨stopping, _, shut, settled⟩ := closed
  cases turn with
  | rests => exact closed
  | listens => exact closed
  | blocked => exact closed
  | opened _ opens =>
    rcases opens with opening | ⟨id, reopening⟩
    · have unstarted := closed.started
      simp [opening, Worker.started] at unstarted
    · exact absurd reopening (settled id)
  | stopped => exact ⟨stopping, started, fun _ => rfl, by simp⟩
  | completed =>
    -- The worker reads the flag here, so that it does not open admission again.
    rw [if_pos stopping]
    exact ⟨stopping, rfl, shut, by simp⟩
  | advanced run q notes running advance =>
    cases advance <;> exact ⟨stopping, rfl, shut, by simp⟩
  | _ => exact ⟨stopping, started, shut, fun id reopening => by cases reopening⟩

theorem step (closed : Shut p) (event : Event) : Shut (p.step event).1 := by
  have started := p.step_started event closed.started
  have ⟨stopping, _, shut, settled⟩ := closed
  have move := p.step_spec event
  generalize (p.step event).1 = q, (p.step event).2 = notes at move started
  cases move with
  | worked away now q notes turn => exact closed.turn turn started
  | filled id free ready =>
    cases ready.symm.trans (shut free)
  | admitted => exact ⟨stopping, started, fun _ => rfl, settled⟩
  | started => exact ⟨stopping, started, shut, nofun⟩
  | expired => exact ⟨stopping, started, shut, nofun⟩
  | calledOff => exact ⟨rfl, started, shut, nofun⟩
  | told => exact ⟨rfl, started, shut, settled⟩
  | closed => exact ⟨stopping, started, shut, settled⟩
  | _ => exact closed

theorem takes_eq (closed : Shut p) (events : List Event) : p.takes events = [] := by
  induction events generalizing p with
  | nil => rfl
  | cons event events ih => rw [takes, closed.taken?_eq event, ih (closed.step event)]; rfl

end Shut

theorem Admission.shuts (now : Admission p notes) (stopping : p.stopping = true)
    (started : p.worker.started = true) {event : Event} {id : JobId}
    (taken : p.taken? event = some id) : Shut (p.step event).1 := by
  cases event with
  | enter other =>
    rw [taken?] at taken
    by_cases free : p.free = true
    · rw [if_pos free] at taken
      rcases p.enter_free free other with filled | refused
      · have ready := (enter_filled free filled).1
        -- The caller holds the state now and leaves admission shut behind it.
        have held := (now.deserted free ready).1
        rw [Processor.step, filled]
        refine ⟨stopping, started, fun nobody => ?_, fun id reopening => ?_⟩
        · cases nobody
        · rw [show p.worker = .reopening id from reopening] at held
          cases held
      · rw [refused] at taken
        have nobody : p.caller = none := by simpa [Processor.free] using free
        cases nobody.symm.trans taken
    · rw [if_neg free] at taken
      cases taken
  | _ => cases taken

theorem Admission.welcomes (now : Admission p notes) (free : p.free = true)
    (ready : p.ready = true) (id : JobId) : p.takes [.enter id] = [id] := by
  rw [takes, taken?, if_pos free, now.enter_open free ready]
  rfl

theorem opens_again {id : JobId} (reopening : p.worker = .reopening id) (now : Timestamp) :
    (p.steps [.leave, .work false now]).1.free = true ∧
      (p.steps [.leave, .work false now]).1.ready = true := by
  obtain ⟨ready, left⟩ := p.leave_frees
  change (p.leave.1.work false now).1.free = true ∧ (p.leave.1.work false now).1.ready = true
  rw [left, Processor.work]
  dsimp only
  rw [reopening]
  exact ⟨rfl, rfl⟩

theorem Admission.lone_offer (now : Admission p notes) (stopping : p.stopping = true)
    (started : p.worker.started = true) (events : List Event) :
    (p.takes events).length ≤ 1 := by
  induction events generalizing p notes with
  | nil => exact Nat.zero_le _
  | cons event events ih =>
    rw [takes]
    cases taken : p.taken? event with
    | none =>
      exact ih (now.step event) ((p.step_flags event).1 stopping) (p.step_started event started)
    | some id =>
      rw [(now.shuts stopping started taken).takes_eq events]
      exact Nat.le_refl 1

/-- Once the processor is told to stop, one more offer is taken at most. -/
theorem stopping_takes_one_more (timeLimit : Nat) (store : σ) (world : W) (events : List Event) :
    let p := ((Processor.new timeLimit store world).steps events).1
    p.stopping = true → p.worker.started = true →
      (∀ later, (p.takes later).length ≤ 1) ∧
      (∀ id, (∃ later, id ∈ p.takes later) ↔
        (p.free = true ∧ p.ready = true) ∨ ∃ other, p.worker = .reopening other) ∧
      ∀ later, p.caller.toList ++ p.takes later =
        Note.admissions (p.steps later).2 ++ (p.steps later).1.caller.toList := by
  intro p stopping started
  have now : Admission p _ := Admission.reached timeLimit store world events
  refine ⟨now.lone_offer stopping started, fun id => ⟨fun ⟨later, taken⟩ => ?_, fun window => ?_⟩,
    p.steps_takes⟩
  · by_contra shut
    rw [not_or, not_and, not_exists] at shut
    have closed : Shut p := ⟨stopping, started, fun free => by simpa using shut.1 free, shut.2⟩
    rw [closed.takes_eq later] at taken
    cases taken
  · rcases window with ⟨free, ready⟩ | ⟨other, reopening⟩
    · exact ⟨[.enter id], by simp [now.welcomes free ready id]⟩
    · refine ⟨[.leave, .work false ⟨0, 0⟩, .enter id], ?_⟩
      obtain ⟨free, ready⟩ := opens_again reopening ⟨0, 0⟩
      have taken := (now.steps [.leave, .work false ⟨0, 0⟩]).welcomes free ready id
      change id ∈ (p.steps [.leave, .work false ⟨0, 0⟩]).1.takes [.enter id]
      rw [taken]
      exact List.mem_singleton_self id

section Hasty

def warned : Processor History Scripted :=
  ((Processor.new 60 (.withCapacity 1) {}).steps
    (.start :: Event.works 3 ⟨0, 0⟩ ++ [.shutdown])).1

def hasty : List Event :=
  .start :: Event.works 3 ⟨0, 0⟩ ++ [.enter ⟨1⟩, .leave] ++ Event.works 25 ⟨0, 0⟩ ++ [.shutdown]

def hurried : Processor History Scripted := ((Processor.new 60 (.withCapacity 1) {}).steps hasty).1

theorem hurried_takes_one_more :
    hurried.stopping = true ∧ hurried.worker = .reopening ⟨1⟩ ∧
      (∀ later, (hurried.takes later).length ≤ 1) ∧
      (∃ later, ⟨2⟩ ∈ hurried.takes later) ∧
      ∀ later, hurried.caller.toList ++ hurried.takes later =
        Note.admissions (hurried.steps later).2 ++ (hurried.steps later).1.caller.toList := by
  obtain ⟨stopping, started, reopening⟩ : hurried.stopping = true ∧
      hurried.worker.started = true ∧ hurried.worker = .reopening ⟨1⟩ := by
    decide +kernel
  obtain ⟨lone, window, answers⟩ :=
    stopping_takes_one_more 60 (History.withCapacity 1) ({} : Scripted) hasty stopping started
  exact ⟨stopping, reopening, lone, (window ⟨2⟩).mpr (.inr ⟨_, reopening⟩), answers⟩

theorem admits_while_stopping :
    (warned.stopping = true ∧ warned.free = true ∧
      (warned.steps [.enter ⟨1⟩, .leave]).2 = [.admitted ⟨1⟩]) ∧
    (hurried.stopping = true ∧ hurried.free = true ∧
      (hurried.steps [.work false ⟨0, 0⟩, .enter ⟨2⟩, .leave]).2 = [.admitted ⟨2⟩]) ∧
    ¬ ∀ events later : List Event,
      let p := ((Processor.new 60 (History.withCapacity 1) ({} : Scripted)).steps events).1
      p.stopping = true → p.free = true → Note.admissions (p.steps later).2 = [] := by
  refine ⟨by decide +kernel, by decide +kernel, fun never => ?_⟩
  have refused := never (.start :: Event.works 3 ⟨0, 0⟩ ++ [.shutdown]) [.enter ⟨1⟩, .leave]
    (by decide +kernel) (by decide +kernel)
  revert refused
  decide +kernel

end Hasty

end Admitting

section Closing

variable [JobStore σ]

theorem step_stopped [Stages W] (p : Processor σ W) (event : Event)
    (stopped : p.worker = .stopped) :
    (p.step event).1.worker = .stopped ∧ (p.step event).1.store = p.store ∧
      (p.step event).1.mailbox = p.mailbox := by
  by_cases works : ∃ away now, event = .work away now
  · obtain ⟨away, now, rfl⟩ := works
    rw [step, work, stopped]
    exact ⟨stopped, rfl, rfl⟩
  have move := p.step_spec event
  generalize (p.step event).1 = q, (p.step event).2 = notes at move
  cases move with
  | worked away now => exact absurd ⟨away, now, rfl⟩ works
  | filled id free ready empty receives => simp [stopped, Worker.receives] at receives
  | started absent => cases stopped.symm.trans absent
  | expired run running => cases stopped.symm.trans running
  | calledOff run running => cases stopped.symm.trans running
  | _ => exact ⟨stopped, rfl, rfl⟩

theorem steps_stopped [Stages W] (p : Processor σ W) (events : List Event)
    (stopped : p.worker = .stopped) :
    (p.steps events).1.store = p.store ∧ (p.steps events).1.mailbox = p.mailbox := by
  induction events generalizing p with
  | nil => exact ⟨rfl, rfl⟩
  | cons event events ih =>
    obtain ⟨stays, store, mailbox⟩ := p.step_stopped event stopped
    obtain ⟨later, left⟩ := ih (p.step event).1 stays
    exact ⟨later.trans store, left.trans mailbox⟩

variable [Steady σ] [Stages W] {timeLimit : Nat} {store : σ} {world : W}
  {p : Processor σ (Logged W)} {notes : List Note} {jobs : List (JobId × JobKind)}
  {gone : List JobId}

open Steady

theorem Course.closed (course : Course timeLimit store world p notes jobs gone)
    (closed : p.closed = true) : p.worker = .stopped := by
  induction course with
  | new => cases closed
  | @step p notes jobs gone _ event _ ih =>
    refine (p.step_stopped event ?_).1
    rcases (p.step_flags event).2 closed with before | stopped
    · exact ih before
    · exact stopped
  | accept _ _ _ _ _ _ _ _ ih => exact ih closed
  | others _ _ _ _ ih => exact ih closed

/-- When the end has come, every accepted job that is still stored has a final status, unless it
waits in the mailbox. -/
theorem settled_unless_left_behind (course : Course timeLimit store world p notes jobs gone)
    (closed : p.closed = true) :
    (∀ id ∈ jobs.map Prod.fst, ∀ job, peek id p.store = some job →
      (job.outcome = none ↔ p.mailbox = some id)) ∧
    (∀ id, p.mailbox = some id → (jobs.map Prod.fst).getLast? = some id ∧
      ∃ job, peek id p.store = some job ∧ job.outcome = none) ∧
    ∀ later, (p.steps later).1.store = p.store ∧ (p.steps later).1.mailbox = p.mailbox := by
  have stopped := course.closed closed
  obtain ⟨past, current, waiting, ledger⟩ := Ledger.reached course
  obtain ⟨rfl, -⟩ := ledger.stands.idle (by simp [stopped])
  -- No run is left to end, so that an accepted job is of the past or still in the mailbox.
  have queue : waiting.map Prod.fst = p.mailbox.toList := by
    rw [ledger.queued, pending, stopped]
    rfl
  have split : jobs.map Prod.fst = past.map Segment.id ++ p.mailbox.toList := by
    rw [ledger.split, List.append_nil, List.map_append, queue, List.map_map]
    rfl
  rw [split]
  have waits : ∀ id, p.mailbox = some id → ∃ job, peek id p.store = some job ∧
      job.outcome = none := by
    intro id sent
    obtain ⟨job, held, unfinished⟩ := ledger.serves.waiting id (by simp [pending, sent])
    exact ⟨job, held, by simpa [Job.isRunning] using unfinished⟩
  refine ⟨fun id member job held => ⟨fun unsettled => ?_, fun sent => ?_⟩, fun id sent => ?_,
    fun later => p.steps_stopped later stopped⟩
  · rcases List.mem_append.mp member with old | left
    · obtain ⟨segment, known, rfl⟩ := List.mem_map.mp old
      have told := ledger.told segment known job held
      cases unsettled.symm.trans told
    · exact Option.mem_toList.mp left
  · obtain ⟨other, same, unsettled⟩ := waits id sent
    cases held.symm.trans same
    exact unsettled
  · exact ⟨by simp [sent], waits id sent⟩

section Abandoned

def entrusted : Processor History (Logged Scripted) × List Note :=
  Processor.leave { ordered with mailbox := some ⟨1⟩, caller := some ⟨1⟩ }

def desertion : List Event := [.shutdown, .work true ⟨0, 0⟩, .work true ⟨0, 0⟩, .close]

theorem course_entrusted : Course 60 (.withCapacity 1) offline entrusted.1
    (attentive.2 ++ entrusted.2) [(⟨1⟩, .serviceDesk)] [] := by
  have started : Course 60 (.withCapacity 1) offline attentive.1 attentive.2 [] [] :=
    Course.new.steps (.start :: Event.works 3 ⟨0, 0⟩) (by decide)
  have stored : Course 60 (.withCapacity 1) offline ordered attentive.2 [] [] :=
    started.others _ [] nofun
  obtain ⟨free, ready, held⟩ : ordered.free = true ∧ ordered.ready = true ∧
      ordered.store.find? ⟨1⟩ = some order := by
    decide +kernel
  have sent := stored.accept_open ⟨1⟩ order free ready held rfl nofun
  exact sent.step .leave fun id same => by cases same

theorem settled_unless_deserted :
    (entrusted.1.steps desertion).1.closed = true ∧
      (∀ id ∈ [(⟨1⟩ : JobId)], ∀ job, peek id (entrusted.1.steps desertion).1.store = some job →
        (job.outcome = none ↔ (entrusted.1.steps desertion).1.mailbox = some id)) ∧
      (∀ id, (entrusted.1.steps desertion).1.mailbox = some id → [(⟨1⟩ : JobId)].getLast? = some id ∧
        ∃ job, peek id (entrusted.1.steps desertion).1.store = some job ∧ job.outcome = none) := by
  have closed : (entrusted.1.steps desertion).1.closed = true := by decide +kernel
  obtain ⟨settled, last, -⟩ :=
    settled_unless_left_behind (course_entrusted.steps desertion (by decide)) closed
  exact ⟨closed, settled, last⟩

theorem shutdown_strands_a_job :
    ¬ ∀ {p : Processor History (Logged Scripted)} {notes : List Note}
        {jobs : List (JobId × JobKind)} {gone : List JobId} (events : List Event),
      Course 60 (.withCapacity 1) offline p notes jobs gone → p.stopping = false →
      (∀ event ∈ events, event.offers = false) → (p.steps events).1.closed = true →
      ∀ id ∈ Note.admissions notes, ∀ job, peek id (p.steps events).1.store = some job →
        job.outcome ≠ none := by
  intro strands
  obtain ⟨going, closed, admitted, held⟩ : entrusted.1.stopping = false ∧
      (entrusted.1.steps desertion).1.closed = true ∧
      ⟨1⟩ ∈ Note.admissions (attentive.2 ++ entrusted.2) ∧
      (entrusted.1.steps desertion).1.store.find? ⟨1⟩ = some order := by
    decide +kernel
  exact strands desertion course_entrusted going (by decide) closed ⟨1⟩ admitted order held rfl

end Abandoned

end Closing

end Processor

end TicketReports
