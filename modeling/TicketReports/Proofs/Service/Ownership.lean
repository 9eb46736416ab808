import TicketReports.Proofs.Processor.Recording
import TicketReports.Service.Traffic

/-!
Who may write to which job. Submissions and the worker load and save whole jobs without a lock.
No write is lost, because a stored job that is running has one owner at a time: its submission
until the job is accepted, and from then on the worker; a submission that is refused keeps its job.
-/

set_option autoImplicit false

namespace TicketReports

namespace Submission

def id? : Submission → Option JobId
  | .storing _ => none
  | .offering id => some id
  | .offered id => some id
  | .loading id _ => some id
  | .saving id _ _ => some id
  | .ended (.created id) => some id
  | .ended (.refused id _) => some id
  | .ended (.failed _) => none

def accepted? : Submission → Option JobId
  | .offered id => some id
  | .ended (.created id) => some id
  | _ => none

def refused? : Submission → Option JobId
  | .loading id _ => some id
  | .saving id _ _ => some id
  | .ended (.refused id _) => some id
  | _ => none

theorem id?_of_accepted? {submission : Submission} {id : JobId}
    (accepted : submission.accepted? = some id) : submission.id? = some id := by
  cases submission with
  | offered _ => exact accepted
  | ended verdict =>
    cases verdict with
    | created _ => exact accepted
    | _ => cases accepted
  | _ => cases accepted

theorem id?_of_refused? {submission : Submission} {id : JobId}
    (refused : submission.refused? = some id) : submission.id? = some id := by
  cases submission with
  | loading _ _ => exact refused
  | saving _ _ _ => exact refused
  | ended verdict =>
    cases verdict with
    | refused _ _ => exact refused
    | _ => cases refused
  | _ => cases refused

theorem not_refused_of_accepted {submission : Submission} {id other : JobId}
    (accepted : submission.accepted? = some id) : submission.refused? ≠ some other := by
  cases submission with
  | offered _ => simp [refused?]
  | ended verdict =>
    cases verdict with
    | created _ => simp [refused?]
    | _ => cases accepted
  | _ => cases accepted

/-- What a submission relies on: the job that it owns is stored and running. -/
def Relies (history : History) : Submission → Prop
  | .offering id => ∃ job, history.find? id = some job ∧ job.isRunning = true
  | .loading id _ => ∃ job, history.find? id = some job ∧ job.isRunning = true
  | .saving id error next => ∃ job, history.find? id = some job ∧ job.isRunning = true ∧
      job.finish (.error error.message) = .ok next
  | _ => True

theorem Relies.kept {before after : History} {submission : Submission}
    (relies : submission.Relies before)
    (kept : ∀ id, submission.id? = some id → submission.accepted? = none →
      Job.Kept (before.find? id) (after.find? id)) :
    submission.Relies after := by
  cases submission with
  | offering id =>
    obtain ⟨job, held, running⟩ := relies
    exact ⟨job, (kept id rfl rfl).running held running, running⟩
  | loading id error =>
    obtain ⟨job, held, running⟩ := relies
    exact ⟨job, (kept id rfl rfl).running held running, running⟩
  | saving id error next =>
    obtain ⟨job, held, running, closes⟩ := relies
    exact ⟨job, (kept id rfl rfl).running held running, running, closes⟩
  | _ => trivial

theorem Relies.holds {history : History} {id : JobId} {error : AdmissionError} {next : Job}
    (relies : (saving id error next).Relies history) : next.id = some id := by
  obtain ⟨job, held, running, closes⟩ := relies
  have mine : job.id = some id := History.find?_id held
  rw [Job.finish_running running] at closes
  cases closes
  exact mine

end Submission

def Turn.orderly : Turn → Bool
  | .processor event => !event.byCaller
  | _ => true

namespace Traffic

variable {W : Type}

section Drawn

variable {σ : Type} [JobStore σ] [Stages W]

def draws (traffic : Traffic σ W) : Turn → List JobId
  | .submission index fresh _ =>
    match traffic.submissions[index]? with
    | some (.storing _) => [fresh]
    | _ => []
  | _ => []

def drawn (traffic : Traffic σ W) : List Turn → List JobId
  | [] => []
  | turn :: turns => traffic.draws turn ++ (traffic.take turn).1.drawn turns

end Drawn

theorem step_ids [Stages W] (p : Processor History W) (event : Event) :
    (p.step event).1.store.jobs.map Job.id = p.store.jobs.map Job.id := by
  by_cases works : ∃ away now, event = .work away now
  · obtain ⟨away, now, rfl⟩ := works
    rw [Processor.step, Processor.work]
    split
    next => rfl
    next => rfl
    next =>
      unfold Processor.reclaim
      split
      next => rfl
      next =>
        split
        next => rfl
        next => exact History.update_ids _ _
    next =>
      unfold Processor.setReady
      split <;> rfl
    next =>
      unfold Processor.listen
      repeat' split
      all_goals rfl
    next id looking =>
      change (JobStore.get id p.store).2.jobs.map Job.id = _
      rw [History.get_eq]
    next run running =>
      have loads : ∀ {store : History} {answer : Except StoreError Job},
          JobStore.get run.id p.store = (answer, store) → store = p.store := by
        intro store answer got
        have same := History.get_eq run.id p.store
        rwa [got] at same
      have spec := p.advance_spec run now
      generalize (p.advance run now).1 = q, (p.advance run now).2 = later at spec
      cases spec with
      | missing change rest error store todo answer => rw [loads answer]
      | declined change rest job error store todo answer applied => rw [loads answer]
      | changed change rest job next store todo answer applied => rw [loads answer]
      | saved job rest todo => exact History.update_ids _ _
      | _ => rfl
    next => rfl
    next =>
      unfold Processor.setReady
      split <;> rfl
    next =>
      unfold Processor.setReady
      split <;> rfl
    next => rfl
  · rw [p.step_store fun away now same => works ⟨away, now, same⟩]

theorem take_lookUp [Stages W] (traffic : Traffic History W) (id : JobId) :
    traffic.take (.lookUp id) = (traffic, []) := by
  have same := History.get_eq id traffic.processor.store
  change ({ traffic with
    processor := { traffic.processor with store := (JobStore.get id traffic.processor.store).2 } },
    []) = _
  rw [same]

theorem take_listPage [Stages W] (traffic : Traffic History W) (page : Page) :
    traffic.take (.listPage page) = (traffic, []) := rfl

def At {σ : Type} (traffic : Traffic σ W) (index : Nat) (submission : Submission) : Prop :=
  traffic.submissions[index]? = some submission

/-- What every order of turns keeps. `known` are the ids drawn so far and those stored before. -/
structure Owned (traffic : Traffic History W) (notes : List Note) (known : List (Option JobId)) :
    Prop where
  admission : Processor.Admission traffic.processor notes
  serves : traffic.processor.Serves
  started : traffic.processor.worker.started = true
  distinct : (traffic.processor.store.jobs.map Job.id).Nodup
  stored : ∀ id ∈ traffic.processor.store.jobs.map Job.id, id ∈ known
  submitted : ∀ index submission id, traffic.At index submission → submission.id? = some id →
    some id ∈ known
  apart : ∀ first second submission other id, traffic.At first submission →
    traffic.At second other → submission.id? = some id → other.id? = some id → first = second
  relies : ∀ index submission, traffic.At index submission →
    submission.Relies traffic.processor.store
  calling : ∀ index id, traffic.At index (.offered id) → traffic.processor.caller = some id
  accepted : ∀ id ∈ Note.admissions notes ++ traffic.processor.caller.toList,
    ∃ index submission, traffic.At index submission ∧ submission.accepted? = some id
  refused : ∀ id ∈ Note.refusals notes,
    ∃ index submission, traffic.At index submission ∧ submission.refused? = some id

namespace Owned

variable {traffic : Traffic History W} {notes heard : List Note} {known : List (Option JobId)}

theorem silent (owned : Owned traffic notes known) : Owned traffic (notes ++ []) known := by
  rw [List.append_nil]
  exact owned

theorem occupant_known (owned : Owned traffic notes known) {id : JobId}
    (on : id ∈ traffic.processor.occupants) : some id ∈ known := by
  obtain ⟨index, submission, place, accepted⟩ := owned.accepted id (owned.admission.accepted on)
  exact owned.submitted index submission id place (Submission.id?_of_accepted? accepted)

theorem not_occupant (owned : Owned traffic notes known) {index : Nat} {submission : Submission}
    (place : traffic.At index submission) {id : JobId} (owns : submission.id? = some id)
    (unaccepted : submission.accepted? = none) : id ∉ traffic.processor.occupants := by
  intro on
  -- Whatever is with the worker was accepted from one submission, and no two share an id.
  obtain ⟨other, holder, there, accepted⟩ := owned.accepted id (owned.admission.accepted on)
  have same := owned.apart index other submission holder id place there owns
    (Submission.id?_of_accepted? accepted)
  subst same
  cases place.symm.trans there
  cases unaccepted.symm.trans accepted

theorem processor [Stages W] (owned : Owned traffic notes known) (event : Event)
    (apart : event.byCaller = false) :
    Owned { traffic with processor := (traffic.processor.step event).1 }
      (notes ++ (traffic.processor.step event).2) known := by
  obtain ⟨caller, admissions, refusals⟩ := traffic.processor.step_apart event apart
  have ids := step_ids traffic.processor event
  have writes := owned.serves.step_writes owned.started event
  refine ⟨owned.admission.step event, owned.serves.step owned.admission event apart,
    traffic.processor.step_started event owned.started, ?_, ?_, owned.submitted, owned.apart, ?_,
    ?_, ?_, ?_⟩
  · rw [ids]
    exact owned.distinct
  · rw [ids]
    exact owned.stored
  · intro index submission place
    refine (owned.relies index submission place).kept fun id owns unaccepted => ?_
    rcases writes id with same | ⟨_, _, run, _, running, holds, _⟩
    · exact .inl same
    · -- The worker writes to the job that it runs, which belongs to no submission any more.
      refine absurd ?_ (owned.not_occupant place owns unaccepted)
      simp [Processor.occupants, running, Worker.held?, holds]
  · intro index id place
    exact caller.trans (owned.calling index id place)
  · rw [Note.admissions_append, admissions, List.append_nil, caller]
    exact owned.accepted
  · rw [Note.refusals_append, refusals, List.append_nil]
    exact owned.refused

theorem at_set {submissions : List Submission} {index other : Nat} {next found : Submission}
    (there : (submissions.set index next)[other]? = some found) :
    (other = index ∧ found = next) ∨ (other ≠ index ∧ submissions[other]? = some found) := by
  rw [List.getElem?_set] at there
  by_cases same : index = other
  · rw [if_pos same] at there
    split at there
    next => exact .inl ⟨same.symm, (Option.some.inj there).symm⟩
    next => cases there
  · rw [if_neg same] at there
    exact .inr ⟨fun equal => same equal.symm, there⟩

theorem replace (owned : Owned traffic notes known) {index : Nat} {before after : Submission}
    (place : traffic.At index before) {q : Processor History W} {wider : List (Option JobId)}
    (grown : ∀ id ∈ known, id ∈ wider) (admission : Processor.Admission q heard)
    (serves : q.Serves) (started : q.worker.started = true)
    (distinct : (q.store.jobs.map Job.id).Nodup)
    (stored : ∀ id ∈ q.store.jobs.map Job.id, id ∈ wider)
    (identity : ∀ id, after.id? = some id →
      some id ∈ wider ∧ (before.id? = some id ∨ some id ∉ known))
    (others : ∀ id, some id ∈ known → before.id? ≠ some id →
      Job.Kept (traffic.processor.store.find? id) (q.store.find? id))
    (relies : after.Relies q.store) (called : ∀ id, after = .offered id → q.caller = some id)
    (calling : ∀ other id, other ≠ index → traffic.At other (.offered id) → q.caller = some id)
    (keeps : ∀ id, before.accepted? = some id → after.accepted? = some id)
    (accepted : ∀ id ∈ Note.admissions heard ++ q.caller.toList,
      after.accepted? = some id ∨
        id ∈ Note.admissions notes ++ traffic.processor.caller.toList)
    (keepsRefusal : ∀ id, before.refused? = some id → after.refused? = some id)
    (refused : ∀ id ∈ Note.refusals heard,
      after.refused? = some id ∨ id ∈ Note.refusals notes) :
    Owned { processor := q, submissions := traffic.submissions.set index after } heard wider := by
  have inside : index < traffic.submissions.length := (List.getElem?_eq_some_iff.mp place).1
  have here : (traffic.submissions.set index after)[index]? = some after :=
    List.getElem?_set_self inside
  have there : ∀ {other : Nat} {found : Submission}, other ≠ index → traffic.At other found →
      (traffic.submissions.set index after)[other]? = some found := by
    intro other found different found'
    rw [List.getElem?_set_ne (Ne.symm different)]
    exact found'
  -- Of two submissions with one id, one that changed has kept its id.
  have alone : ∀ {other : Nat} {found : Submission} {id : JobId}, other ≠ index →
      traffic.At other found → found.id? = some id → after.id? = some id → False := by
    intro other found id different found' owns same
    rcases (identity id same).2 with old | new
    · exact different (owned.apart other index found before id found' place owns old)
    · exact new (owned.submitted other found id found' owns)
  refine ⟨admission, serves, started, distinct, stored, ?_, ?_, ?_, ?_, ?_, ?_⟩
  · intro other found id placed owns
    rcases at_set placed with ⟨rfl, rfl⟩ | ⟨_, placed⟩
    · exact (identity id owns).1
    · exact grown _ (owned.submitted other found id placed owns)
  · intro first second submission other id firstPlaced secondPlaced owns otherOwns
    rcases at_set firstPlaced with ⟨rfl, rfl⟩ | ⟨firstElse, firstKept⟩
    · rcases at_set secondPlaced with ⟨rfl, rfl⟩ | ⟨secondElse, secondKept⟩
      · rfl
      · exact (alone secondElse secondKept otherOwns owns).elim
    · rcases at_set secondPlaced with ⟨rfl, rfl⟩ | ⟨_, secondKept⟩
      · exact (alone firstElse firstKept owns otherOwns).elim
      · exact owned.apart first second submission other id firstKept secondKept owns otherOwns
  · intro other found placed
    rcases at_set placed with ⟨rfl, rfl⟩ | ⟨different, placed⟩
    · exact relies
    · refine (owned.relies other found placed).kept fun id owns _ => ?_
      refine others id (owned.submitted other found id placed owns) fun same => ?_
      exact different (owned.apart other index found before id placed place owns same)
  · intro other id placed
    rcases at_set placed with ⟨rfl, same⟩ | ⟨different, placed⟩
    · exact called id same.symm
    · exact calling other id different placed
  · intro id member
    rcases accepted id member with mine | old
    · exact ⟨index, after, here, mine⟩
    · obtain ⟨other, found, placed, accepts⟩ := owned.accepted id old
      by_cases same : other = index
      · subst same
        cases placed.symm.trans place
        exact ⟨other, after, here, keeps id accepts⟩
      · exact ⟨other, found, there same placed, accepts⟩
  · intro id member
    rcases refused id member with mine | old
    · exact ⟨index, after, here, mine⟩
    · obtain ⟨other, found, placed, refuses⟩ := owned.refused id old
      by_cases same : other = index
      · subst same
        cases placed.symm.trans place
        exact ⟨other, after, here, keepsRefusal id refuses⟩
      · exact ⟨other, found, there same placed, refuses⟩

theorem stores (owned : Owned traffic notes known) {index : Nat} {kind : JobKind}
    (place : traffic.At index (.storing kind)) {fresh : JobId} (new : some fresh ∉ known)
    {job : Job} (holds : job.id = some fresh) (running : job.isRunning = true) :
    Owned
      { processor := { traffic.processor with store := traffic.processor.store.push job }
        submissions := traffic.submissions.set index (.offering fresh) }
      notes (known ++ [some fresh]) := by
  have absent : some fresh ∉ traffic.processor.store.jobs.map Job.id :=
    fun member => new (owned.stored _ member)
  have kept : ∀ id, some id ∈ known → Job.Kept (traffic.processor.store.find? id)
      ((traffic.processor.store.push job).find? id) := by
    intro id old
    refine History.kept_push owned.distinct absent holds id fun same => new (same ▸ old)
  refine owned.replace place ?_ ?_ ?_ owned.started ?_ ?_ ?_ ?_ ?_ ?_ ?_ ?_ ?_ ?_ ?_
  · exact fun id old => List.mem_append_left _ old
  · exact owned.admission.aside _ _
  · exact owned.serves.kept _ fun id on => kept id (owned.occupant_known on)
  · exact History.push_ids_nodup owned.distinct absent holds
  · intro id member
    rw [List.mem_append, List.mem_singleton]
    have among := ((History.dropFinished_sublist _ _).map Job.id).subset member
    rw [List.map_append, List.map_singleton, List.mem_append, List.mem_singleton, holds] at among
    exact among.imp (owned.stored id) fun same => same
  · intro id owns
    cases owns
    exact ⟨List.mem_append_right _ (List.mem_singleton_self _), .inr new⟩
  · exact fun id old _ => kept id old
  · exact ⟨job, History.find?_push owned.distinct absent holds running, running⟩
  · exact fun id same => by cases same
  · exact fun other id _ placed => owned.calling other id placed
  · exact fun id accepts => by cases accepts
  · exact fun id member => .inr member
  · exact fun id refuses => by cases refuses
  · exact fun id member => .inr member

theorem settles (owned : Owned traffic notes known) {index : Nat} {before after : Submission}
    (place : traffic.At index before) {q : Processor History W}
    (same : after.id? = before.id?) (store : q.store = traffic.processor.store)
    (admission : Processor.Admission q heard) (serves : q.Serves)
    (started : q.worker.started = true) (relies : after.Relies traffic.processor.store)
    (called : ∀ id, after = .offered id → q.caller = some id)
    (calling : ∀ other id, other ≠ index → traffic.At other (.offered id) → q.caller = some id)
    (keeps : ∀ id, before.accepted? = some id → after.accepted? = some id)
    (accepted : ∀ id ∈ Note.admissions heard ++ q.caller.toList,
      after.accepted? = some id ∨
        id ∈ Note.admissions notes ++ traffic.processor.caller.toList)
    (keepsRefusal : ∀ id, before.refused? = some id → after.refused? = some id)
    (refused : ∀ id ∈ Note.refusals heard,
      after.refused? = some id ∨ id ∈ Note.refusals notes) :
    Owned { processor := q, submissions := traffic.submissions.set index after } heard known := by
  refine owned.replace place (fun _ old => old) admission serves started ?_ ?_ ?_ ?_ ?_ called
    calling keeps accepted keepsRefusal refused
  · rw [store]
    exact owned.distinct
  · rw [store]
    exact owned.stored
  · intro id owns
    rw [same] at owns
    exact ⟨owned.submitted index before id place owns, .inl owns⟩
  · intro id _ _
    rw [store]
    exact .refl _
  · rw [store]
    exact relies

theorem pauses (owned : Owned traffic notes known) {index : Nat} {submission : Submission}
    (place : traffic.At index submission) :
    Owned { traffic with submissions := traffic.submissions.set index submission } notes
      known := by
  refine owned.settles place rfl rfl owned.admission owned.serves owned.started
    (owned.relies index submission place) ?_ (fun other id _ => owned.calling other id)
    (fun _ accepts => accepts) (fun _ member => .inr member) (fun _ refuses => refuses)
    (fun _ member => .inr member)
  rintro id rfl
  exact owned.calling index id place

theorem offers (owned : Owned traffic notes known) {index : Nat} {id : JobId}
    (place : traffic.At index (.offering id)) :
    Owned
      { processor := (Submission.offer id traffic.processor).2.1
        submissions := traffic.submissions.set index (Submission.offer id traffic.processor).1 }
      (notes ++ (Submission.offer id traffic.processor).2.2) known := by
  obtain ⟨job, held, running⟩ := owned.relies index _ place
  have admission := owned.admission.enter id
  have serves : (traffic.processor.enter id).1.Serves := owned.serves.enter held running
  by_cases free : traffic.processor.free = true
  · have nobody : traffic.processor.caller = none := by simpa [Processor.free] using free
    have others : ∀ other found, other ≠ index → traffic.At other (.offered found) → False := by
      intro other found _ placed
      cases nobody.symm.trans (owned.calling other found placed)
    -- The offer is taken or refused on the spot, and the caller keeps its id until it leaves.
    rcases Processor.enter_free free id with taken | refused
    · rw [taken] at admission serves
      rw [List.append_nil] at admission
      have offered : Submission.offer id traffic.processor =
          (.offered id, { traffic.processor with mailbox := some id, caller := some id }, []) := by
        simp [Submission.offer, free, taken]
      rw [offered]
      refine silent (owned.settles place rfl rfl admission serves owned.started trivial ?_ ?_ ?_
        (fun other member => ?_) ?_ fun _ member => .inr member)
      · exact fun other same => by cases same; rfl
      · exact fun other found different placed => (others other found different placed).elim
      · exact fun _ accepts => by cases accepts
      · rcases List.mem_append.mp member with told | calls
        · exact .inr (List.mem_append_left _ told)
        · exact .inl (by simpa [Submission.accepted?, eq_comm] using calls)
      · exact fun _ refuses => by cases refuses
    · rw [refused] at admission serves
      have offered : Submission.offer id traffic.processor =
          (.loading id .busy,
            { traffic.processor with counters := traffic.processor.counters.countRejected },
            [.refused id]) := by
        simp [Submission.offer, free, refused]
      rw [offered]
      refine owned.settles place rfl rfl (admission.aside _ _) ⟨serves.waiting, serves.owing⟩
        owned.started ⟨job, held, running⟩ ?_ ?_ ?_ ?_ ?_ ?_
      · exact fun other same => by cases same
      · exact fun other found different placed => (others other found different placed).elim
      · exact fun _ accepts => by cases accepts
      · intro other member
        rw [Note.admissions_append] at member
        exact .inr (by simpa [Note.admissions, Note.admitted?] using member)
      · exact fun _ refuses => by cases refuses
      · intro other member
        rw [Note.refusals_append] at member
        rcases List.mem_append.mp member with told | now
        · exact .inr told
        · refine .inl ?_
          simpa [Note.refusals, Note.refused?, Submission.refused?, eq_comm] using now
  · have offered : Submission.offer id traffic.processor =
        (.offering id, traffic.processor, []) := by
      simp [Submission.offer, free]
    rw [offered]
    exact (owned.pauses place).silent

theorem leaves (owned : Owned traffic notes known) {index : Nat} {id : JobId}
    (place : traffic.At index (.offered id)) :
    Owned
      { processor := traffic.processor.leave.1
        submissions := traffic.submissions.set index (.ended (.created id)) }
      (notes ++ traffic.processor.leave.2) known := by
  have calls := owned.calling index id place
  have admission := owned.admission.leave
  have serves := owned.serves.leave
  have left : traffic.processor.leave =
      ({ traffic.processor with ready := false, caller := none }, [.admitted id]) := by
    rw [Processor.leave, calls]
  rw [left] at admission serves ⊢
  refine owned.settles place rfl rfl admission serves owned.started trivial ?_ ?_ ?_ ?_ ?_ ?_
  · exact fun other same => by cases same
  · intro other found different placed
    -- Only the caller is about to leave, and that is this submission.
    cases calls.symm.trans (owned.calling other found placed)
    exact absurd (owned.apart other index _ _ id placed place rfl rfl) different
  · exact fun _ accepts => accepts
  · intro other member
    rw [Note.admissions_append] at member
    refine .inr ?_
    rw [calls]
    simpa [Note.admissions, Note.admitted?] using member
  · exact fun _ refuses => by cases refuses
  · intro other member
    rw [Note.refusals_append] at member
    exact .inr (by simpa [Note.refusals, Note.refused?] using member)

theorem loads (owned : Owned traffic notes known) {index : Nat} {id : JobId}
    {error : AdmissionError} (place : traffic.At index (.loading id error)) :
    Owned
      { processor := (Submission.load id error traffic.processor).2
        submissions := traffic.submissions.set index
          (Submission.load id error traffic.processor).1 }
      notes known := by
  obtain ⟨job, held, running⟩ := owned.relies index _ place
  have closes := Job.finish_running running (.error error.message)
  have loaded : Submission.load id error traffic.processor =
      (.saving id error { job with outcome := some (.error error.message) },
        traffic.processor) := by
    have found : JobStore.get id traffic.processor.store = (.ok job, traffic.processor.store) := by
      change History.get id traffic.processor.store = _
      rw [History.get, held]
    simp only [Submission.load, found, closes]
  rw [loaded]
  refine owned.settles place rfl rfl owned.admission owned.serves owned.started
    ⟨job, held, running, closes⟩ ?_ (fun other found _ => owned.calling other found) ?_
    (fun _ member => .inr member) (fun _ refuses => refuses) (fun _ member => .inr member)
  · exact fun other same => by cases same
  · exact fun _ accepts => by cases accepts

theorem saves (owned : Owned traffic notes known) {index : Nat} {id : JobId}
    {error : AdmissionError} {next : Job} (place : traffic.At index (.saving id error next)) :
    Owned
      { processor :=
          { traffic.processor with store := (JobStore.update next traffic.processor.store).2 }
        submissions := traffic.submissions.set index (.ended (.refused id error)) }
      notes known := by
  have holds := (owned.relies index _ place).holds
  have ids := History.update_ids next traffic.processor.store
  have others : ∀ other, other ≠ id → Job.Kept (traffic.processor.store.find? other)
      ((JobStore.update next traffic.processor.store).2.find? other) :=
    fun other different => .inl ((History.find?_update holds other _).trans (if_neg different))
  -- The job was refused, so the worker neither has it nor waits for it.
  have foreign := owned.not_occupant place rfl rfl
  refine owned.replace place (fun _ old => old) ?_ ?_ owned.started ?_ ?_ ?_ ?_ trivial ?_
    (fun other found _ => owned.calling other found) ?_ (fun _ member => .inr member)
    (fun _ refuses => refuses) (fun _ member => .inr member)
  · exact owned.admission.aside _ _
  · exact owned.serves.kept _ fun other on => others other fun same => foreign (same ▸ on)
  · exact ids ▸ owned.distinct
  · exact ids ▸ owned.stored
  · exact fun other owns => ⟨owned.submitted index _ other place owns, .inl owns⟩
  · exact fun other _ different => others other fun same => different (congrArg some same.symm)
  · exact fun other same => by cases same
  · exact fun _ accepts => by cases accepts

theorem submission [Stages W] (owned : Owned traffic notes known) (index : Nat) (fresh : JobId)
    (now : Timestamp)
    (new : ∀ id ∈ traffic.draws (.submission index fresh now), some id ∉ known) :
    Owned (traffic.take (.submission index fresh now)).1
      (notes ++ (traffic.take (.submission index fresh now)).2)
      (known ++ (traffic.draws (.submission index fresh now)).map some) := by
  unfold take draws at *
  cases place : traffic.submissions[index]? with
  | none => simpa [place] using owned
  | some submission =>
    have here : traffic.At index submission := place
    simp only [place] at new ⊢
    cases submission with
    | storing kind =>
      have unknown := new fresh (List.mem_singleton_self fresh)
      exact (owned.stores here unknown rfl rfl).silent
    | offering id =>
      rw [List.map_nil, List.append_nil]
      exact owned.offers here
    | offered id =>
      rw [List.map_nil, List.append_nil]
      exact owned.leaves here
    | loading id error =>
      rw [List.map_nil, List.append_nil]
      exact (owned.loads here).silent
    | saving id error job =>
      rw [List.map_nil, List.append_nil]
      exact (owned.saves here).silent
    | ended verdict =>
      rw [List.map_nil, List.append_nil]
      exact (owned.pauses here).silent

theorem arrives (owned : Owned traffic notes known) (kind : JobKind) :
    Owned { traffic with submissions := traffic.submissions ++ [.storing kind] } notes known := by
  have earlier : ∀ {index : Nat} {found : Submission},
      (traffic.submissions ++ [.storing kind])[index]? = some found →
      traffic.At index found ∨ found = .storing kind := by
    intro index found placed
    rw [List.getElem?_append] at placed
    split at placed
    · exact .inl placed
    · exact .inr (List.mem_singleton.mp (List.mem_of_getElem? placed))
  have later : ∀ {index : Nat} {found : Submission}, traffic.At index found →
      (traffic.submissions ++ [.storing kind])[index]? = some found := by
    intro index found placed
    rw [List.getElem?_append_left (List.getElem?_eq_some_iff.mp placed).1]
    exact placed
  refine ⟨owned.admission, owned.serves, owned.started, owned.distinct, owned.stored, ?_, ?_, ?_,
    ?_, ?_, ?_⟩
  · intro index found id placed owns
    rcases earlier placed with old | rfl
    · exact owned.submitted index found id old owns
    · cases owns
  · intro first second found other id firstPlaced secondPlaced owns otherOwns
    rcases earlier firstPlaced with old | rfl
    · rcases earlier secondPlaced with otherOld | rfl
      · exact owned.apart first second found other id old otherOld owns otherOwns
      · cases otherOwns
    · cases owns
  · intro index found placed
    rcases earlier placed with old | rfl
    · exact owned.relies index found old
    · trivial
  · intro index id placed
    rcases earlier placed with old | new
    · exact owned.calling index id old
    · cases new
  · intro id member
    obtain ⟨index, found, placed, accepts⟩ := owned.accepted id member
    exact ⟨index, found, later placed, accepts⟩
  · intro id member
    obtain ⟨index, found, placed, refuses⟩ := owned.refused id member
    exact ⟨index, found, later placed, refuses⟩

theorem take [Stages W] (owned : Owned traffic notes known) (turn : Turn)
    (orderly : turn.orderly = true) (new : ∀ id ∈ traffic.draws turn, some id ∉ known) :
    Owned (traffic.take turn).1 (notes ++ (traffic.take turn).2)
      (known ++ (traffic.draws turn).map some) := by
  cases turn with
  | submission index fresh now => exact owned.submission index fresh now new
  | processor event =>
    have none : traffic.draws (.processor event) = [] := rfl
    rw [none, List.map_nil, List.append_nil]
    exact owned.processor event (by simpa [Turn.orderly] using orderly)
  | arrive kind =>
    have none : traffic.draws (.arrive kind) = [] := rfl
    rw [none, List.map_nil, List.append_nil, Traffic.take, List.append_nil]
    exact owned.arrives kind
  | lookUp id =>
    have none : traffic.draws (.lookUp id) = [] := rfl
    rw [none, List.map_nil, List.append_nil, take_lookUp, List.append_nil]
    exact owned
  | listPage page =>
    have none : traffic.draws (.listPage page) = [] := rfl
    rw [none, List.map_nil, List.append_nil, take_listPage, List.append_nil]
    exact owned

theorem takeAll [Stages W] (owned : Owned traffic notes known) (turns : List Turn)
    (orderly : ∀ turn ∈ turns, turn.orderly = true)
    (new : (known ++ (traffic.drawn turns).map some).Nodup) :
    Owned (traffic.takeAll turns).1 (notes ++ (traffic.takeAll turns).2)
      (known ++ (traffic.drawn turns).map some) := by
  induction turns generalizing traffic notes known with
  | nil => simpa [Traffic.takeAll, drawn] using owned
  | cons turn turns ih =>
    rw [drawn, List.map_append, ← List.append_assoc] at new ⊢
    -- The ids drawn later are fresh for the ids known after this turn.
    have unknown : ∀ id ∈ traffic.draws turn, some id ∉ known := by
      intro id drawn old
      have parts := List.nodup_append.mp (List.nodup_append.mp new).1
      exact parts.2.2 _ old _ (List.mem_map_of_mem drawn) rfl
    have next := owned.take turn (orderly turn List.mem_cons_self) unknown
    have rest := ih next (fun other member => orderly other (List.mem_cons_of_mem turn member)) new
    rwa [List.append_assoc] at rest

theorem exclusive (owned : Owned traffic notes known) {id : JobId}
    (accepted : ∃ index submission, traffic.At index submission ∧ submission.accepted? = some id) :
    id ∉ Note.refusals notes := by
  intro refused
  obtain ⟨index, submission, place, accepts⟩ := accepted
  obtain ⟨other, found, there, refuses⟩ := owned.refused id refused
  obtain rfl := owned.apart index other submission found id place there
    (Submission.id?_of_accepted? accepts) (Submission.id?_of_refused? refuses)
  cases place.symm.trans there
  exact Submission.not_refused_of_accepted accepts refuses

theorem unadmitted (owned : Owned traffic notes known) {id : JobId}
    (refused : ∃ index submission, traffic.At index submission ∧ submission.refused? = some id) :
    id ∉ Note.admissions notes := by
  intro admitted
  obtain ⟨index, submission, place, refuses⟩ := refused
  obtain ⟨other, found, there, accepts⟩ := owned.accepted id (List.mem_append_left _ admitted)
  obtain rfl := owned.apart index other submission found id place there
    (Submission.id?_of_refused? refuses) (Submission.id?_of_accepted? accepts)
  cases place.symm.trans there
  exact Submission.not_refused_of_accepted accepts refuses

end Owned

def WorkerTurn (traffic : Traffic History W) (turn : Turn) (id : JobId) : Prop :=
  ∃ away now run, turn = .processor (.work away now) ∧ traffic.processor.worker = .running run ∧
    run.id = id

def RefusedTurn (traffic : Traffic History W) (turn : Turn) (id : JobId) : Prop :=
  ∃ index fresh now error job, turn = .submission index fresh now ∧
    traffic.At index (.saving id error job)

/-- What may become of a job on a turn. -/
inductive Fate (traffic : Traffic History W) (turn : Turn) (id : JobId)
    (before after : Option Job) : Prop
  | kept (kept : Job.Kept before after)
  | added (job : Job) (absent : before = none) (held : after = some job)
      (running : job.isRunning = true)
  | worked (job next : Job) (held : before = some job) (running : job.isRunning = true)
      (saved : after = some next) (turn : WorkerTurn traffic turn id)
  | refused (job next : Job) (held : before = some job) (running : job.isRunning = true)
      (saved : after = some next) (turn : RefusedTurn traffic turn id)

theorem offer_store (id : JobId) (p : Processor History W) :
    (Submission.offer id p).2.1.store = p.store := by
  by_cases free : p.free = true
  · rcases Processor.enter_free free id with taken | refused
    · simp [Submission.offer, free, taken]
    · simp [Submission.offer, free, refused]
  · simp [Submission.offer, free]

theorem leave_store (p : Processor History W) : p.leave.1.store = p.store := by
  unfold Processor.leave
  split <;> rfl

theorem load_store (id : JobId) (error : AdmissionError) (p : Processor History W) :
    (Submission.load id error p).2.store = p.store := by
  have same := History.get_eq id p.store
  unfold Submission.load
  split
  next failed => rwa [failed] at same
  next found =>
    rw [found] at same
    split <;> exact same

theorem Owned.fate [Stages W] {traffic : Traffic History W} {notes : List Note}
    {known : List (Option JobId)} (owned : Owned traffic notes known) (turn : Turn)
    (new : ∀ id ∈ traffic.draws turn, some id ∉ known) (id : JobId) :
    Fate traffic turn id (traffic.processor.store.find? id)
      ((traffic.take turn).1.processor.store.find? id) := by
  cases turn with
  | arrive kind => exact .kept (.refl _)
  | listPage page => exact .kept (.refl _)
  | lookUp other =>
    rw [take_lookUp]
    exact .kept (.refl _)
  | processor event =>
    rcases owned.serves.step_writes owned.started event id with
      same | ⟨away, now, run, rfl, runs, holds, job, next, held, running, saved, _⟩
    · exact .kept (.inl same)
    · exact .worked job next held running saved ⟨away, now, run, rfl, runs, holds⟩
  | submission index fresh now =>
    unfold Traffic.take Traffic.draws at *
    cases place : traffic.submissions[index]? with
    | none =>
      simp only [place]
      exact .kept (.refl _)
    | some submission =>
      have here : traffic.At index submission := place
      simp only [place] at new ⊢
      cases submission with
      | storing kind =>
        have unknown := new fresh (List.mem_singleton_self fresh)
        have absent : some fresh ∉ traffic.processor.store.jobs.map Job.id :=
          fun member => unknown (owned.stored _ member)
        by_cases same : id = fresh
        · subst same
          exact .added _ (History.find?_eq_none_iff.mpr absent)
            (History.find?_push owned.distinct absent rfl rfl) rfl
        · exact .kept (History.kept_push owned.distinct absent rfl id same)
      | offering other =>
        refine .kept (.inl ?_)
        exact congrArg (fun store : History => store.find? id) (offer_store other _)
      | offered other =>
        refine .kept (.inl ?_)
        exact congrArg (fun store : History => store.find? id) (leave_store _)
      | loading other error =>
        refine .kept (.inl ?_)
        exact congrArg (fun store : History => store.find? id) (load_store other error _)
      | saving other error next =>
        have relies := owned.relies index _ here
        have update := History.find?_update relies.holds id traffic.processor.store
        by_cases same : id = other
        · subst same
          obtain ⟨job, held, running, _⟩ := relies
          rw [if_pos rfl, held, Option.map_some] at update
          exact .refused job _ held running update ⟨index, fresh, now, error, next, rfl, here⟩
        · exact .kept (.inl (update.trans (if_neg same)))
      | ended verdict => exact .kept (.refl _)

end Traffic

end TicketReports
