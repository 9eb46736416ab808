import TicketReports.Proofs.JobStore.Kinds
import TicketReports.Proofs.Processor.Accounts

set_option autoImplicit false

namespace TicketReports

namespace Segment

def plays (answers : Step → StepEnd) : List Step → List (Step × StepEnd)
  | [] => []
  | step :: rest =>
    if answers step = .done then (step, .done) :: plays answers rest else [(step, answers step)]

theorem plays_successes {answers : Step → StepEnd} {made : List Step}
    (fine : ∀ step ∈ made, answers step = .done) (rest : List Step) :
    plays answers (made ++ rest) = successes made ++ plays answers rest := by
  induction made with
  | nil => rfl
  | cons step made ih =>
    have later := ih fun other member => fine other (List.mem_cons_of_mem step member)
    rw [List.cons_append, plays, if_pos (fine step List.mem_cons_self), later]
    rfl

theorem Played.calls_eq {segment : Segment} (played : segment.Played) {answers : Step → StepEnd}
    (follows : ∀ call ∈ segment.calls, call.2 = answers call.1) :
    segment.calls = plays answers segment.kind.steps := by
  have fine : ∀ {made : List Step}, (∀ call ∈ successes made, call ∈ segment.calls) →
      ∀ step ∈ made, answers step = .done := by
    intro made among step member
    exact (follows (step, .done) (among _ (List.mem_map_of_mem member))).symm
  rcases played.whole_or_broken with
    ⟨calls, _⟩ | ⟨made, step, rest, result, plan, calls, broken, _⟩
  · have whole := plays_successes (fine fun call member => calls ▸ member) []
    rw [List.append_nil] at whole
    rw [calls, whole]
    exact (List.append_nil _).symm
  · have last : result = answers step := follows (step, result) (by rw [calls]; simp)
    have made := plays_successes
      (fine fun call member => calls ▸ List.mem_append_left _ member) (step :: rest)
    rw [calls, plan, made, plays, ← last, if_neg broken]

end Segment

/-- The calls of each run ended as the script says for that run, counted from 0. -/
def Follows (script : Nat → Step → StepEnd) (log : List (Step × StepEnd)) : Prop :=
  ∀ run ∈ (callsByRun log).zipIdx, ∀ call ∈ run.1, call.2 = script run.2 call.1

instance (script : Nat → Step → StepEnd) (log : List (Step × StepEnd)) :
    Decidable (Follows script log) :=
  inferInstanceAs (Decidable (∀ run ∈ (callsByRun log).zipIdx, ∀ call ∈ run.1, _ = _))

theorem Follows.calls_eq {script : Nat → Step → StepEnd} {segments : List Segment}
    (follows : Follows script (segments.flatMap Segment.calls))
    (played : ∀ segment ∈ segments, segment.Played) :
    segments.map Segment.calls = (segments.map Segment.kind).mapIdx
      fun index kind => Segment.plays (script index) kind.steps := by
  refine List.ext_getElem (by simp) fun index inside _ => ?_
  rw [List.length_map] at inside
  simp only [List.getElem_map, List.getElem_mapIdx]
  refine (played _ (List.getElem_mem inside)).calls_eq fun call member => ?_
  refine follows (segments[index].calls, index) ?_ call member
  rw [callsByRun_flatMap played, List.mk_mem_zipIdx_iff_getElem?]
  simp [inside]

namespace Processor

variable {σ W : Type}

section Looking

variable [JobStore σ] [Kinds σ] [Stages W]

open Kinds

theorem Advance.kind {p q : Processor σ W} {run : Run} {now : Timestamp} {notes : List Note}
    (advance : Advance p run now q notes) (id : JobId) : kind? id q.store = kind? id p.store := by
  have loads : ∀ {answer : Except StoreError Job} {store : σ},
      JobStore.get run.id p.store = (answer, store) → kind? id store = kind? id p.store := by
    intro answer store found
    have same := kind_get run.id id p.store
    rwa [found] at same
  cases advance with
  | missing change rest error store todo answer => exact loads answer
  | declined change rest job error store todo answer => exact loads answer
  | changed change rest job next store todo answer => exact loads answer
  | saved job rest todo => exact kind_update job id p.store
  | _ => rfl

theorem Turn.kind {p q : Processor σ W} {away : Bool} {now : Timestamp} {notes : List Note}
    (turn : Turn p away now q notes) (id : JobId) : kind? id q.store = kind? id p.store := by
  have surveys : ∀ {answer : Except StoreError (List Job)} {store : σ},
      JobStore.running p.store = (answer, store) → kind? id store = kind? id p.store := by
    intro answer store found
    have same := kind_running id p.store
    rwa [found] at same
  cases turn with
  | surveyed stranded store surveying answer => exact surveys answer
  | unsurveyed error store surveying answer => exact surveys answer
  | reclaimed job closed rest => exact kind_update closed id p.store
  | began other => exact kind_get other id p.store
  | advanced run q notes running advance => exact advance.kind id
  | _ => rfl

theorem step_kind (p : Processor σ W) (event : Event) (id : JobId) :
    kind? id (p.step event).1.store = kind? id p.store := by
  have move := p.step_spec event
  generalize (p.step event).1 = q, (p.step event).2 = notes at move
  cases move with
  | worked away now q notes turn => exact turn.kind id
  | _ => rfl

omit [Stages W] in
theorem lookups_kind (p : Processor σ W) {event : Event} {lookup : JobId × Option JobKind}
    (member : lookup ∈ p.lookups event) {found : JobKind} (told : lookup.2 = some found) :
    kind? lookup.1 p.store = some found := by
  cases event with
  | work away now =>
    rw [lookups] at member
    split at member
    next id looking =>
      rw [List.mem_singleton.mp member] at told ⊢
      cases answer : (JobStore.get id p.store).1 with
      | error error => simp [answer, Except.toOption] at told
      | ok job =>
        rw [get_kind answer]
        simpa [answer, Except.toOption] using told
    next => cases member
  | _ => cases member

theorem Trail.kinds {kind : JobId → JobKind} {timeLimit : Nat} {store : σ} {world : W}
    {p : Processor σ (Logged W)} {notes : List Note} {seen : List (JobId × Option JobKind)}
    (trail : Trail (Of kind) timeLimit store world p notes seen) :
    Of kind p.store ∧ ∀ lookup ∈ seen, ∀ found, lookup.2 = some found → found = kind lookup.1 := by
  induction trail with
  | new fine => exact ⟨fine, nofun⟩
  | others _ after fine ih => exact ⟨fine, ih.2⟩
  | @step p notes seen _ event ih =>
    obtain ⟨fine, told⟩ := ih
    refine ⟨fun id found stored => ?_, fun lookup member found told' => ?_⟩
    · rw [p.step_kind event id] at stored
      exact fine id found stored
    · rcases List.mem_append.mp member with old | new
      · exact told lookup old found told'
      · exact fine lookup.1 found (p.lookups_kind new told')

end Looking

/-- Two runs that are to do the same. Either both jobs were loaded and are of one kind, or each of
them takes every report or could not be loaded. -/
def Alike (kind kind' : JobId → JobKind) (lookup lookup' : JobId × Option JobKind) : Prop :=
  (lookup.2.isSome = true ∧ lookup'.2.isSome = true ∧ kind lookup.1 = kind' lookup'.1) ∨
    (lookup.2 = none ∨ kind lookup.1 = .all) ∧ (lookup'.2 = none ∨ kind' lookup'.1 = .all)

section Alike

variable {kind kind' : JobId → JobKind} {lookup lookup' : JobId × Option JobKind}

theorem served_found (told : ∀ found, lookup.2 = some found → found = kind lookup.1)
    (loaded : lookup.2.isSome = true) : (served lookup).2 = kind lookup.1 := by
  obtain ⟨found, is⟩ := Option.isSome_iff_exists.mp loaded
  rw [served, is, ← told found is]
  rfl

theorem served_all (told : ∀ found, lookup.2 = some found → found = kind lookup.1)
    (all : lookup.2 = none ∨ kind lookup.1 = .all) : (served lookup).2 = .all := by
  cases is : lookup.2 with
  | none =>
    rw [served, is]
    rfl
  | some found =>
    have takes : kind lookup.1 = .all := by simpa [is] using all
    rw [served_found told (by rw [is]; rfl), takes]

theorem Alike.served_eq (alike : Alike kind kind' lookup lookup')
    (told : ∀ found, lookup.2 = some found → found = kind lookup.1)
    (told' : ∀ found, lookup'.2 = some found → found = kind' lookup'.1) :
    (served lookup).2 = (served lookup').2 := by
  rcases alike with ⟨loaded, loaded', same⟩ | ⟨all, all'⟩
  · rw [served_found told loaded, served_found told' loaded', same]
  · rw [served_all told all, served_all told' all']

theorem Alike.served_map {seen seen' : List (JobId × Option JobKind)}
    (alike : List.Forall₂ (Alike kind kind') seen seen')
    (told : ∀ lookup ∈ seen, ∀ found, lookup.2 = some found → found = kind lookup.1)
    (told' : ∀ lookup ∈ seen', ∀ found, lookup.2 = some found → found = kind' lookup.1) :
    (seen.map served).map Prod.snd = (seen'.map served).map Prod.snd := by
  induction alike with
  | nil => rfl
  | cons first _ ih =>
    rw [List.forall_mem_cons] at told told'
    simp only [List.map_cons]
    rw [first.served_eq told.1 told'.1, ih told.2 told'.2]

end Alike

theorem Tally.resting {p : Processor σ (Logged W)} {notes : List Note}
    {seen : List (JobId × Option JobKind)} {ended : List Segment} (tally : Tally p notes seen ended)
    (idle : Note.inFlight notes = []) :
    seen.map served = ended.map Segment.entry ∧ p.world.log = ended.flatMap Segment.calls := by
  have flight := tally.admission.flight
  rw [idle] at flight
  exact tally.flight.resting (Option.toList_eq_nil_iff.mp flight.symm)

theorem Admission.reopens [JobStore σ] [Stages W] {p : Processor σ W} {notes : List Note}
    (admission : Admission p notes) {id : JobId} (finished : p.worker = .finished id)
    (now : Timestamp) : (p.steps (.leave :: Event.works 2 now)).1.ready = !p.stopping := by
  have held : p.worker.held? = some id := by rw [finished]; rfl
  have empty := admission.empty held
  obtain ⟨ready, left⟩ := p.leave_frees
  have shut : ready = false := by
    have freed := admission.leave
    rw [left] at freed
    refine Bool.eq_false_iff.mpr fun opened => ?_
    have vacant := freed.vacant rfl opened
    simp [occupants, held] at vacant
  let freed : Processor σ W := { p with ready, caller := none }
  change (p.leave.1.steps (Event.works 2 now)).1.ready = _
  rw [left]
  by_cases stopping : p.stopping = true
  · have first : (freed.work false now).1 = { freed with worker := .listening } := by
      rw [Processor.work, finished]
      dsimp only
      rw [if_pos stopping]
    have rested : (freed.steps (Event.works 2 now)).1.ready = false := by
      rw [works_succ, first, rests (p := { freed with worker := .listening }) rfl empty 1]
      exact shut
    exact rested.trans (by rw [stopping]; rfl)
  · have going : p.stopping = false := by simpa using stopping
    have opened : (freed.steps (Event.works 2 now)).1.ready = true := by
      rw [Processor.reopens (p := freed) rfl going empty finished 0]
    exact opened.trans (by rw [going]; rfl)

/-- Workers whose runs are of jobs that are alike make the same calls and count the same, whatever
their stores fail to do. -/
theorem persistence_never_steers {τ V : Type} [JobStore σ] [Kinds σ] [Stages V] [JobStore τ]
    [Kinds τ] [Stages W] {kind kind' : JobId → JobKind} {timeLimit timeLimit' : Nat} {store : σ}
    {store' : τ} {world : V} {world' : W} {p : Processor σ (Logged V)} {q : Processor τ (Logged W)}
    {notes notes' : List Note} {seen seen' : List (JobId × Option JobKind)}
    (trail : Trail (Kinds.Of kind) timeLimit store world p notes seen)
    (trail' : Trail (Kinds.Of kind') timeLimit' store' world' q notes' seen')
    (alike : List.Forall₂ (Alike kind kind') seen seen') {script : Nat → Step → StepEnd}
    (follows : Follows script p.world.log) (follows' : Follows script q.world.log) :
    seen.map Prod.fst = Note.beginnings notes ∧ seen'.map Prod.fst = Note.beginnings notes' ∧
      (Note.inFlight notes = [] → Note.inFlight notes' = [] →
        p.world.log = q.world.log ∧ p.counters.failed = q.counters.failed ∧
          p.counters.succeeded = q.counters.succeeded) ∧
      (∀ id id' now, p.worker = .finished id → q.worker = .finished id' →
        p.stopping = q.stopping →
          (p.steps (.leave :: Event.works 2 now)).1.ready =
            (q.steps (.leave :: Event.works 2 now)).1.ready) ∧
      ∀ good : W → Prop, Answering good → good q.world.world → q.worker.started = true →
        q.stopping = false → ∀ now, ∃ count,
          (q.steps (.leave :: Event.works count now)).1.ready = true := by
  obtain ⟨ended, tally⟩ := Tally.reached trail
  obtain ⟨ended', tally'⟩ := Tally.reached trail'
  refine ⟨tally.begun.symm, tally'.begun.symm, fun idle idle' => ?_,
    fun id id' now finished finished' same => ?_, fun good answering fine started going now => ?_⟩
  · obtain ⟨entries, log⟩ := tally.resting idle
    obtain ⟨entries', log'⟩ := tally'.resting idle'
    have kinds : ended.map Segment.kind = ended'.map Segment.kind := by
      have served := Alike.served_map alike trail.kinds.2 trail'.kinds.2
      simpa [entries, entries', Segment.entry, Function.comp_def] using served
    -- The script and the kinds of the jobs determine all calls.
    have calls : ended.map Segment.calls = ended'.map Segment.calls := by
      rw [(log ▸ follows : Follows script _).calls_eq tally.played, kinds,
        (log' ▸ follows' : Follows script _).calls_eq tally'.played]
    obtain ⟨succeeded, failed⟩ := Segment.countP_congr calls
    refine ⟨?_, ?_, ?_⟩
    · rw [log, log', List.flatMap_def, List.flatMap_def, calls]
    · rw [tally.failed, tally'.failed, failed]
    · rw [tally.succeeded, tally'.succeeded, succeeded]
  · rw [tally.admission.reopens finished now, tally'.admission.reopens finished' now, same]
  · obtain ⟨ready, left⟩ := q.leave_frees
    have freed := tally'.admission.leave
    rw [left] at freed
    obtain ⟨count, -, opened, -⟩ := completes (p := { q with ready, caller := none })
      answering.logged fine freed rfl going started now
    refine ⟨count, ?_⟩
    change (q.leave.1.steps (Event.works count now)).1.ready = true
    rw [left]
    exact opened

section Forgetful

def thorough : Job := { Job.new .all ⟨0, 0⟩ with id := some ⟨2⟩ }

def shelf : History := ⟨2, [order, thorough]⟩

def kindOf (id : JobId) : JobKind := if id = ⟨2⟩ then .all else .serviceDesk

theorem shelf_kinds : Kinds.Of kindOf shelf :=
  History.kinds_of fun job member id holds => by
    rcases List.mem_cons.mp member with rfl | second
    · cases holds; rfl
    · cases List.mem_singleton.mp second
      cases holds; rfl

theorem blank_kinds : Kinds.Of kindOf (History.withCapacity 2) :=
  History.kinds_of fun _ member => absurd member List.not_mem_nil

section Filled

variable [JobStore σ]

def waking : List Event := .start :: Event.works 3 ⟨0, 0⟩

def twoJobs : List Event :=
  [.enter ⟨1⟩, .leave] ++ Event.works 20 ⟨0, 0⟩ ++ [.enter ⟨2⟩, .leave] ++ Event.works 40 ⟨0, 0⟩

def dormant (store : σ) : Processor σ (Logged Rehearsed) :=
  .new 60 store { world := hesitant }

def filled (store stock : σ) : Processor σ (Logged Rehearsed) :=
  { ((dormant store).steps waking).1 with store := stock }

theorem trail_twoJobs [Kinds σ] {store stock : σ} (fine : Kinds.Of kindOf store)
    (stocked : Kinds.Of kindOf stock) :
    Trail (Kinds.Of kindOf) 60 store hesitant ((filled store stock).steps twoJobs).1
      (((dormant store).steps waking).2 ++ ((filled store stock).steps twoJobs).2)
      ((dormant store).sought waking ++ (filled store stock).sought twoJobs) :=
  (((Trail.new fine).steps waking).others stock stocked).steps twoJobs

end Filled

def mindful : Processor History (Logged Rehearsed) := filled (.withCapacity 2) shelf

def lapsed : Unreliable History := { inner := .withCapacity 2 }

def forgetful : Processor (Unreliable History) (Logged Rehearsed) :=
  filled lapsed { inner := shelf, fails := fun number _ => number != 0 }

theorem answering_rehearsed :
    Answering fun world : Rehearsed => ∀ answer ∈ world.answers, answer ≠ .waiting := by
  rintro step left ⟨answers⟩ fine
  cases answers with
  | nil => exact ⟨nofun, nofun⟩
  | cons answer rest =>
    rw [List.forall_mem_cons] at fine
    exact fine

def firstStumbles (run : Nat) (step : Step) : StepEnd :=
  if run = 0 ∧ step = .users then .failed refusal else .done

/-- The second job could not be loaded and nothing was recorded, but the calls and the counts are
those of the worker whose store answers. -/
theorem forgetful_steers_nothing :
    (forgetful.sought twoJobs = [(⟨1⟩, some .serviceDesk), (⟨2⟩, none)] ∧
      (forgetful.steps twoJobs).1.store.inner = shelf) ∧
    (mindful.steps twoJobs).1.world.log = (forgetful.steps twoJobs).1.world.log ∧
      (mindful.steps twoJobs).1.counters.failed = (forgetful.steps twoJobs).1.counters.failed ∧
      (mindful.steps twoJobs).1.counters.succeeded =
        (forgetful.steps twoJobs).1.counters.succeeded ∧
      ∃ count, ((forgetful.steps twoJobs).1.steps
        (.leave :: Event.works count ⟨0, 0⟩)).1.ready = true := by
  obtain ⟨seen, idle, follows⟩ :
      (dormant (History.withCapacity 2)).sought waking ++ mindful.sought twoJobs =
        [(⟨1⟩, some .serviceDesk), (⟨2⟩, some .all)] ∧
      Note.inFlight (((dormant (History.withCapacity 2)).steps waking).2 ++
        (mindful.steps twoJobs).2) = [] ∧
      Follows firstStumbles (mindful.steps twoJobs).1.world.log := by
    decide +kernel
  obtain ⟨seen', idle', follows'⟩ :
      (dormant lapsed).sought waking ++ forgetful.sought twoJobs =
        [(⟨1⟩, some .serviceDesk), (⟨2⟩, none)] ∧
      Note.inFlight (((dormant lapsed).steps waking).2 ++ (forgetful.steps twoJobs).2) = [] ∧
      Follows firstStumbles (forgetful.steps twoJobs).1.world.log := by
    decide +kernel
  obtain ⟨lookups, unrecorded, fine, started, going⟩ :
      forgetful.sought twoJobs = [(⟨1⟩, some .serviceDesk), (⟨2⟩, none)] ∧
      (forgetful.steps twoJobs).1.store.inner = shelf ∧
      (∀ answer ∈ (forgetful.steps twoJobs).1.world.world.answers, answer ≠ .waiting) ∧
      (forgetful.steps twoJobs).1.worker.started = true ∧
      (forgetful.steps twoJobs).1.stopping = false := by
    decide +kernel
  have trail : Trail (Kinds.Of kindOf) 60 (History.withCapacity 2) hesitant
      (mindful.steps twoJobs).1
      (((dormant (History.withCapacity 2)).steps waking).2 ++ (mindful.steps twoJobs).2)
      [(⟨1⟩, some .serviceDesk), (⟨2⟩, some .all)] := by
    rw [← seen]
    exact trail_twoJobs blank_kinds shelf_kinds
  have trail' : Trail (Kinds.Of kindOf) 60 lapsed hesitant (forgetful.steps twoJobs).1
      (((dormant lapsed).steps waking).2 ++ (forgetful.steps twoJobs).2)
      [(⟨1⟩, some .serviceDesk), (⟨2⟩, none)] := by
    rw [← seen']
    exact trail_twoJobs blank_kinds shelf_kinds
  have alike : List.Forall₂ (Alike kindOf kindOf)
      [(⟨1⟩, some .serviceDesk), (⟨2⟩, some .all)] [(⟨1⟩, some .serviceDesk), (⟨2⟩, none)] :=
    .cons (.inl ⟨rfl, rfl, rfl⟩) (.cons (.inr ⟨.inr rfl, .inl rfl⟩) .nil)
  obtain ⟨-, -, same, -, completes⟩ := persistence_never_steers trail trail' alike follows follows'
  obtain ⟨log, failed, succeeded⟩ := same idle idle'
  exact ⟨⟨lookups, unrecorded⟩, log, failed, succeeded,
    completes _ answering_rehearsed fine started going ⟨0, 0⟩⟩

end Forgetful

end Processor

end TicketReports
