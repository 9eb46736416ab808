import TicketReports.Proofs.Job.Stamps
import TicketReports.Proofs.JobStore.Eviction
import TicketReports.Proofs.JobStore.Kinds
import TicketReports.Proofs.Processor.Recording

set_option autoImplicit false

namespace TicketReports

namespace Unreliable

variable {σ α : Type}

def Unfailing (store : Unreliable σ) : Prop := ∀ number call, store.fails number call = false

@[simp] theorem perform_fails (call : StoreCall) (run : σ → StoreAnswer σ α)
    (store : Unreliable σ) : (perform call run store).2.fails = store.fails := by
  unfold perform
  dsimp only
  split <;> rfl

theorem perform_unfailing {store : Unreliable σ} (unfailing : store.Unfailing) (call : StoreCall)
    (run : σ → StoreAnswer σ α) :
    (perform call run store).1 = (run store.inner).1 ∧
      (perform call run store).2.inner = (run store.inner).2 := by
  simp [perform, unfailing store.calls call]

theorem get_spec (id : JobId) (store : Unreliable History) :
    (JobStore.get id store).2.inner = store.inner ∧
      (JobStore.get id store).2.fails = store.fails ∧
      (∀ job, (JobStore.get id store).1 = .ok job → store.inner.find? id = some job) ∧
      (store.Unfailing → ∀ error, (JobStore.get id store).1 = .error error →
        store.inner.find? id = none) := by
  refine ⟨?_, perform_fails _ _ _, fun job answer => ?_, fun unfailing error answer => ?_⟩
  · rcases perform_spec .get (JobStore.get id) store with ⟨_, _, inner⟩ | ⟨_, inner⟩
    · exact inner
    · exact inner.trans (History.get_eq id store.inner)
  · rcases perform_spec .get (JobStore.get id) store with ⟨error, failed, _⟩ | ⟨answered, _⟩
    · cases failed.symm.trans answer
    · have found : (History.get id store.inner).1 = .ok job := answered.symm.trans answer
      unfold History.get at found
      split at found
      next => cases found
      next held => cases found; exact held
  · have missed : (History.get id store.inner).1 = .error error :=
      (perform_unfailing unfailing .get (JobStore.get id)).1.symm.trans answer
    unfold History.get at missed
    split at missed
    next absent => exact absent
    next => cases missed

section Got

variable {id : JobId} {store after : Unreliable History}

theorem get_inner {answer : Except StoreError Job}
    (got : JobStore.get id store = (answer, after)) : after.inner = store.inner := by
  simpa [got] using (get_spec id store).1

theorem get_found {job : Job} (got : JobStore.get id store = (.ok job, after)) :
    store.inner.find? id = some job :=
  (get_spec id store).2.2.1 job (by rw [got])

theorem get_missed (unfailing : store.Unfailing) {error : StoreError}
    (got : JobStore.get id store = (.error error, after)) : store.inner.find? id = none :=
  (get_spec id store).2.2.2 unfailing error (by rw [got])

end Got

theorem update_spec (job : Job) (store : Unreliable History) :
    (JobStore.update job store).2.fails = store.fails ∧
      (((JobStore.update job store).2.inner = store.inner ∧ ¬store.Unfailing) ∨
        (JobStore.update job store).2.inner = (History.update job store.inner).2) := by
  refine ⟨perform_fails _ _ _, ?_⟩
  by_cases unfailing : store.Unfailing
  · exact .inr (perform_unfailing unfailing .update (JobStore.update job)).2
  · rcases perform_spec .update (JobStore.update job) store with ⟨_, _, inner⟩ | ⟨_, inner⟩
    · exact .inl ⟨inner, unfailing⟩
    · exact .inr inner

theorem create_answer {fresh : JobId} {now : Timestamp} {kind : JobKind}
    {store after : Unreliable History} {answer : Except StoreError JobId}
    (created : JobStore.create fresh now kind store = (answer, after)) :
    after.fails = store.fails ∧
      ((answer = .ok fresh ∧
          after.inner = store.inner.push { Job.new kind now with id := some fresh }) ∨
        ∃ error, answer = .error error ∧ after.inner = store.inner) := by
  have fails := perform_fails .add (JobStore.add fresh (Job.new kind now)) store
  have made := perform_spec .add (JobStore.add fresh (Job.new kind now)) store
  change perform .add (JobStore.add fresh (Job.new kind now)) store = _ at created
  rw [created] at fails made
  refine ⟨fails, ?_⟩
  rcases made with ⟨error, failed, inner⟩ | ⟨answered, inner⟩
  · exact .inr ⟨error, failed, inner⟩
  · rw [History.add_new fresh rfl] at answered inner
    exact .inl ⟨answered, inner⟩

theorem create_spec {fresh : JobId} {now : Timestamp} {kind : JobKind}
    {store after : Unreliable History}
    (created : JobStore.create fresh now kind store = (.ok fresh, after)) :
    after.inner = store.inner.push { Job.new kind now with id := some fresh } ∧
      after.fails = store.fails := by
  obtain ⟨fails, ⟨_, pushed⟩ | ⟨error, failed, _⟩⟩ := create_answer created
  · exact ⟨pushed, fails⟩
  · cases failed

theorem update_find {job : Job} {id : JobId} (named : job.id = some id)
    (store : Unreliable History) :
    (∀ other, other ≠ id →
      (JobStore.update job store).2.inner.find? other = store.inner.find? other) ∧
    (((JobStore.update job store).2.inner.find? id = store.inner.find? id ∧ ¬store.Unfailing) ∨
      (JobStore.update job store).2.inner.find? id =
        (store.inner.find? id).map fun stored => History.merge stored job) := by
  obtain ⟨_, ⟨lost, failing⟩ | made⟩ := update_spec job store
  · rw [lost]
    exact ⟨fun _ _ => rfl, .inl ⟨rfl, failing⟩⟩
  · rw [made]
    refine ⟨fun other different => ?_, .inr ?_⟩
    · rw [History.find?_update named, if_neg different]
    · rw [History.find?_update named, if_pos rfl]

theorem update_other {job : Job} {id : JobId} (other : job.id ≠ some id)
    (store : Unreliable History) :
    (JobStore.update job store).2.inner.find? id = store.inner.find? id := by
  cases named : job.id with
  | some own =>
    refine (update_find named store).1 id fun same => other ?_
    rw [named, same]
  | none =>
    obtain ⟨_, ⟨lost, _⟩ | made⟩ := update_spec job store
    · rw [lost]
    · rw [made, History.update, named]

theorem update_ids (job : Job) (store : Unreliable History) :
    (JobStore.update job store).2.inner.jobs.map Job.id = store.inner.jobs.map Job.id := by
  obtain ⟨_, ⟨lost, _⟩ | made⟩ := update_spec job store
  · rw [lost]
  · rw [made, History.update_ids]

theorem running_spec (store : Unreliable History) :
    (JobStore.running store).2.inner = store.inner ∧
      (JobStore.running store).2.fails = store.fails ∧
      ∀ jobs, (JobStore.running store).1 = .ok jobs →
        jobs = store.inner.jobs.filter Job.isRunning := by
  refine ⟨?_, perform_fails _ _ _, fun jobs answer => ?_⟩
  · rcases perform_spec .running JobStore.running store with ⟨_, _, inner⟩ | ⟨_, inner⟩
    · exact inner
    · exact inner
  · rcases perform_spec .running JobStore.running store with ⟨error, failed, _⟩ | ⟨answered, _⟩
    · cases failed.symm.trans answer
    · cases answered.symm.trans answer
      rfl

theorem running_inner {store after : Unreliable History} {answer : Except StoreError (List Job)}
    (got : JobStore.running store = (answer, after)) : after.inner = store.inner := by
  simpa [got] using (running_spec store).1

end Unreliable

namespace Action

def mark? : Action → Option Mark
  | .record change => change.mark?
  | _ => none

def marks (todo : List Action) : List Mark := todo.filterMap mark?

theorem marks_phase (kind : JobKind) (phase : Phase) :
    marks (ofPhase kind phase) = [.start phase, .finish phase] := by
  have steps : ((kind.stepsOf phase).map Action.perform).filterMap mark? = [] :=
    List.filterMap_eq_nil_iff.mpr fun action member => by
      obtain ⟨step, _, rfl⟩ := List.mem_map.mp member
      rfl
  simp [ofPhase, marks, steps, mark?, Job.Change.mark?]

theorem marks_plan (kind : JobKind) : marks (plan kind) = Mark.all := by
  have phases : ∀ phases : List Phase, marks (phases.flatMap (ofPhase kind)) =
      phases.flatMap fun phase => [.start phase, .finish phase] := by
    intro phases
    induction phases with
    | nil => rfl
    | cons phase phases ih =>
      rw [List.flatMap_cons, List.flatMap_cons, ← ih, ← marks_phase kind phase]
      exact List.filterMap_append
  exact phases Phase.all

theorem not_save_plan (kind : JobKind) (job : Job) : .save job ∉ plan kind := by
  cases kind <;> simp [plan, ofPhase, Phase.all, JobKind.stepsOf]

end Action

/-- What a run knows of the job it writes to. -/
structure Writing (now : Timestamp) (run : Run) (stored : Option Job) : Prop where
  suffix : Action.marks run.todo <:+ Mark.all
  lone : ∀ job, .save job ∉ run.todo.tail
  behind : ∀ job, stored = some job → job.progress.Behind (Action.marks run.todo)
  copied : ∀ copy, .save copy ∈ run.todo → copy.progress.Sound now ∧
    copy.progress.Behind (Action.marks run.todo) ∧ ∀ job, stored = some job → job.isRunning = true

/-- What it knows if no call fails: exactly the stamps that are ahead are missing. -/
structure Exact (run : Run) (stored : Option Job) (ahead : List Mark) : Prop where
  suffix : ahead <:+ Mark.all
  working : run.closing = false → ahead = Action.marks run.todo
  closing : run.closing = true → Action.marks run.todo = []
  success : .record (.close .success) ∈ run.todo → ahead = []
  copied : ∀ copy, .save copy ∈ run.todo →
    copy.progress.Level ahead ∧ (copy.outcome = some .success → ahead = [])
  settled : (∀ copy, .save copy ∉ run.todo) → ∀ job, stored = some job → job.isRunning = true →
    job.progress.Level ahead

namespace Writing

variable {now time : Timestamp} {run next : Run} {stored : Option Job}

theorem begin (blank : ∀ job, stored = some job → job.progress = {}) (id : JobId)
    (number left : Nat) (kind : JobKind) : Writing now (Run.begin id number left kind) stored where
  suffix := by
    rw [Run.begin, Action.marks_plan]
  lone job member := Action.not_save_plan kind job (List.mem_of_mem_tail member)
  behind job held := by
    rw [blank job held]
    exact Progress.behind_blank _
  copied copy member := absurd member (Action.not_save_plan kind copy)

theorem same {after : Option Job} (writing : Writing now run stored) (passed : now ≤ time)
    (todo : next.todo = run.todo) (kept : ∀ job, after = some job → stored = some job) :
    Writing time next after where
  suffix := todo ▸ writing.suffix
  lone := todo ▸ writing.lone
  behind job held := todo ▸ writing.behind job (kept job held)
  copied copy member := by
    obtain ⟨sound, behind, running⟩ := writing.copied copy (todo ▸ member)
    exact ⟨sound.later passed, todo ▸ behind, fun job held => running job (kept job held)⟩

theorem clear (writing : Writing now run stored) {action : Action} {rest : List Action}
    (todo : run.todo = action :: rest) (copy : Job) : .save copy ∉ rest := by
  have lone := writing.lone copy
  rwa [todo] at lone

theorem fewer {action : Action} {rest : List Action} (todo : run.todo = action :: rest) :
    Action.marks rest <:+ Action.marks run.todo := by
  rw [todo]
  exact List.IsSuffix.filterMap _ (List.suffix_cons _ _)

theorem drops (writing : Writing now run stored)
    (fewer : Action.marks next.todo <:+ Action.marks run.todo)
    (clear : ∀ job, .save job ∉ next.todo) : Writing time next stored where
  suffix := fewer.trans writing.suffix
  lone job member := clear job (List.mem_of_mem_tail member)
  behind job held mark member := writing.behind job held mark (fewer.subset member)
  copied copy member := absurd member (clear copy)

theorem copies (writing : Writing now run stored) (sound : ∀ job, stored = some job →
    job.progress.Sound now) (passed : now ≤ time) {change : Job.Change} {rest : List Action}
    (todo : run.todo = .record change :: rest) {job copy : Job} (held : stored = some job)
    (applied : job.apply time change = .ok copy) :
    Writing time { run with todo := .save copy :: rest } stored := by
  have clear := writing.clear todo
  have fewer : Action.marks rest <:+ Action.marks run.todo := fewer todo
  have suffix := writing.suffix
  have behind := writing.behind
  rw [todo] at fewer suffix behind
  have copied : copy.progress.Sound time ∧ copy.progress.Behind (Action.marks rest) := by
    cases turn : change.mark? with
    | none =>
      have same : copy.progress = job.progress := by
        cases change with
        | close status => exact (Job.apply_close applied).1
        | _ => cases turn
      have marks : Action.marks (.record change :: rest) = Action.marks rest :=
        List.filterMap_cons_none turn
      rw [same]
      exact ⟨(sound job held).later passed, marks ▸ behind job held⟩
    | some mark =>
      have marks : Action.marks (.record change :: rest) = mark :: Action.marks rest :=
        List.filterMap_cons_some turn
      rw [marks] at suffix behind
      obtain ⟨_, stamps, started⟩ := Job.apply_mark turn suffix (behind job held) applied
      exact ⟨(sound job held).marked (behind job held) suffix passed stamps started,
        (behind job held).marked suffix stamps⟩
  refine ⟨fewer.trans suffix, clear, ?_, ?_⟩
  · intro other found mark member
    exact behind other found mark (fewer.subset member)
  · intro other member
    rcases List.mem_cons.mp member with same | later
    · cases same
      refine ⟨copied.1, copied.2, fun found has => ?_⟩
      cases held.symm.trans has
      exact Job.apply_running applied
    · exact absurd later (clear other)

variable {W : Type} [Stages W] {p q : Processor (Unreliable History) W} {notes : List Note}

theorem advance (writing : Writing now run (p.store.inner.find? run.id))
    (sound : ∀ job, p.store.inner.find? run.id = some job → job.progress.Sound now)
    (passed : now ≤ time) (named : ∀ copy, .save copy ∈ run.todo → copy.id = some run.id)
    (advance : p.Advance run time q notes) :
    (∀ job, q.store.inner.find? run.id = some job → job.progress.Sound time) ∧
      ∀ next, q.worker = .running next → next.id = run.id ∧
        Writing time next (q.store.inner.find? run.id) := by
  have still : ∀ job, p.store.inner.find? run.id = some job → job.progress.Sound time :=
    fun job held => (sound job held).later passed
  cases advance with
  | retire spent closing => exact ⟨still, by simp⟩
  -- A run that closes drops what it had still to stamp.
  | succeed spent working =>
    refine ⟨still, fun next runs => ?_⟩
    cases runs
    exact ⟨rfl, writing.drops (List.nil_suffix) (by simp [Run.close])⟩
  | done action step rest left world todo asks answer =>
    refine ⟨still, fun next runs => ?_⟩
    cases runs
    exact ⟨rfl, writing.drops (fewer todo) (writing.clear todo)⟩
  | wait action step rest left world todo asks answer =>
    refine ⟨still, fun next runs => ?_⟩
    cases runs
    have same : Action.marks rest <:+ Action.marks run.todo := fewer todo
    exact ⟨rfl, writing.drops same (by simpa using writing.clear todo)⟩
  | fail action step rest left world error todo asks answer =>
    refine ⟨still, fun next runs => ?_⟩
    cases runs
    exact ⟨rfl, writing.drops (List.nil_suffix) (by simp [Run.close])⟩
  | panic action step rest left world detail todo asks answer =>
    refine ⟨still, fun next runs => ?_⟩
    cases runs
    exact ⟨rfl, writing.drops (List.nil_suffix) (by simp [Run.close])⟩
  | missing change rest error store todo answer =>
    rw [Unreliable.get_inner answer]
    refine ⟨still, fun next runs => ?_⟩
    cases runs
    exact ⟨rfl, writing.drops (fewer todo) (writing.clear todo)⟩
  | declined change rest job error store todo answer applied =>
    rw [Unreliable.get_inner answer]
    refine ⟨still, fun next runs => ?_⟩
    cases runs
    exact ⟨rfl, writing.drops (fewer todo) (writing.clear todo)⟩
  | changed change rest job copy store todo answer applied =>
    have held := Unreliable.get_found answer
    rw [Unreliable.get_inner answer]
    refine ⟨still, fun next runs => ?_⟩
    cases runs
    exact ⟨rfl, writing.copies sound passed todo held applied⟩
  | saved copy rest todo =>
    have member : .save copy ∈ run.todo := by simp [todo]
    obtain ⟨well, behind, _⟩ := writing.copied copy member
    have after : ∀ job, (JobStore.update copy p.store).2.inner.find? run.id = some job →
        job.progress.Sound time ∧ job.progress.Behind (Action.marks rest) := by
      intro job held
      -- A copy that was lost leaves the stamp out, and the next ones are still ahead.
      rcases (Unreliable.update_find (named copy member) p.store).2 with ⟨lost, _⟩ | made
      · rw [lost] at held
        exact ⟨still job held, fun mark ahead =>
          writing.behind job held mark ((fewer todo).subset ahead)⟩
      · rw [made, Option.map_eq_some_iff] at held
        obtain ⟨stored, _, rfl⟩ := held
        exact ⟨well.later passed, fun mark ahead => behind mark ((fewer todo).subset ahead)⟩
    refine ⟨fun job held => (after job held).1, fun next runs => ?_⟩
    cases runs
    exact ⟨rfl, (fewer todo).trans writing.suffix, fun job member => writing.clear todo job
      (List.mem_of_mem_tail member), fun job held => (after job held).2,
      fun other member => absurd member (writing.clear todo other)⟩

end Writing

def Job.Candid (job : Job) : Prop :=
  job.progress.InStep ∧ (job.outcome = some .success → job.progress.Complete)

namespace Exact

variable {run next : Run} {stored : Option Job} {ahead : List Mark}

theorem begin (blank : ∀ job, stored = some job → job.progress = {}) (id : JobId)
    (number left : Nat) (kind : JobKind) :
    Exact (Run.begin id number left kind) stored Mark.all where
  suffix := List.suffix_refl _
  working _ := (Action.marks_plan kind).symm
  closing closing := by cases closing
  success member := by
    have open' : .record (.close .success) ∉ Action.plan kind := by
      cases kind <;> simp [Action.plan, Action.ofPhase, Phase.all, JobKind.stepsOf]
    exact absurd member open'
  copied copy member := absurd member (Action.not_save_plan kind copy)
  settled _ job held _ := by
    rw [blank job held]
    exact Progress.level_blank

theorem same {after : Option Job} (exact : Exact run stored ahead) (todo : next.todo = run.todo)
    (closing : next.closing = run.closing)
    (kept : ∀ job, after = some job → stored = some job) : Exact next after ahead where
  suffix := exact.suffix
  working goes := todo ▸ exact.working (closing ▸ goes)
  closing closes := todo ▸ exact.closing (closing ▸ closes)
  success member := exact.success (todo ▸ member)
  copied copy member := exact.copied copy (todo ▸ member)
  settled clear job held := exact.settled (todo ▸ clear) job (kept job held)

theorem drops {after : Option Job} (exact : Exact run stored ahead)
    (settled : ∀ job, after = some job → job.isRunning = true → job.progress.Level ahead)
    (working : next.closing = run.closing)
    (marks : Action.marks next.todo = Action.marks run.todo)
    (success : .record (.close .success) ∈ next.todo → .record (.close .success) ∈ run.todo)
    (clear : ∀ job, .save job ∉ next.todo) : Exact next after ahead where
  suffix := exact.suffix
  working goes := by rw [marks]; exact exact.working (working ▸ goes)
  closing closes := by rw [marks]; exact exact.closing (working ▸ closes)
  success member := exact.success (success member)
  copied copy member := absurd member (clear copy)
  settled _ := settled

theorem closes (exact : Exact run stored ahead) (settled : ∀ job, stored = some job →
    job.isRunning = true → job.progress.Level ahead) {status : FinalStatus}
    (success : status = .success → ahead = []) (left : Nat) :
    Exact ({ run with left }.close status) stored ahead where
  suffix := exact.suffix
  working goes := by cases goes
  closing _ := rfl
  success member := by
    simp only [Run.close, List.mem_singleton, Action.record.injEq, Job.Change.close.injEq] at member
    exact success member.symm
  copied copy member := by simp [Run.close] at member
  settled _ := settled

theorem passes {now : Timestamp} (exact : Exact run stored ahead) (writing : Writing now run stored)
    {change : Job.Change} {rest : List Action} (todo : run.todo = .record change :: rest)
    (spent : ∀ job, stored = some job → job.isRunning = false) :
    ∃ ahead, Exact { run with todo := rest } stored ahead := by
  have fewer : Action.marks rest <:+ Action.marks run.todo := Writing.fewer todo
  have clear := writing.clear todo
  have later : .record (.close .success) ∈ rest → ahead = [] := fun member =>
    exact.success (todo ▸ List.mem_cons_of_mem _ member)
  have settled : ∀ marks : List Mark, ∀ job, stored = some job → job.isRunning = true →
      job.progress.Level marks := by
    intro marks job held running
    cases running.symm.trans (spent job held)
  cases closing : run.closing with
  | true =>
    refine ⟨ahead, exact.suffix, by simp, fun _ => ?_, later,
      fun copy member => absurd member (clear copy), fun _ => settled ahead⟩
    exact List.suffix_nil.mp (exact.closing closing ▸ fewer)
  | false =>
    refine ⟨Action.marks rest, fewer.trans writing.suffix, fun _ => rfl, by simp, ?_,
      fun copy member => absurd member (clear copy), fun _ => settled _⟩
    intro member
    rw [← exact.working closing, later member] at fewer
    exact List.suffix_nil.mp fewer

theorem takes (exact : Exact run stored ahead) {change : Job.Change} {rest : List Action}
    (todo : run.todo = .record change :: rest) {job : Job} (running : job.isRunning = true)
    (level : job.progress.Level ahead) (now : Timestamp) :
    ∃ next, job.apply now change = .ok next := by
  cases change with
  | start phase => exact ⟨_, Job.apply_start running phase now⟩
  | close status => exact ⟨_, Job.finish_running running status⟩
  | finishPhase phase =>
    have marks : Action.marks run.todo = .finish phase :: Action.marks rest := by rw [todo]; rfl
    have suffix := exact.suffix
    cases closing : run.closing with
    | true => cases (exact.closing closing).symm.trans marks
    | false =>
      rw [exact.working closing, marks] at level suffix
      have stamped := (level (.start phase)).mpr (by simp [Mark.start_behind suffix])
      obtain ⟨since, started⟩ := Option.isSome_iff_exists.mp stamped
      exact ⟨_, Job.apply_finishPhase running started now⟩

theorem copies {now time : Timestamp} (exact : Exact run stored ahead)
    (writing : Writing now run stored) {change : Job.Change} {rest : List Action}
    (todo : run.todo = .record change :: rest) {job copy : Job} (held : stored = some job)
    (settled : job.isRunning = true → job.progress.Level ahead)
    (applied : job.apply time change = .ok copy) :
    ∃ ahead, Exact { run with todo := .save copy :: rest } stored ahead := by
  have level := settled (Job.apply_running applied)
  have clear := writing.clear todo
  have later : .record (.close .success) ∈ rest → ahead = [] := fun member =>
    exact.success (todo ▸ List.mem_cons_of_mem _ member)
  cases turn : change.mark? with
  | none =>
    have marks : Action.marks run.todo = Action.marks rest := by
      rw [todo]
      exact List.filterMap_cons_none turn
    refine ⟨ahead, exact.suffix, fun goes => (exact.working goes).trans marks,
      fun closes => marks.symm.trans (exact.closing closes), ?_, ?_, ?_⟩
    · simpa using later
    · intro other member
      obtain rfl : other = copy := by simpa [clear other] using member
      cases change with
      | close status =>
        obtain ⟨progress, outcome⟩ := Job.apply_close applied
        refine ⟨progress ▸ level, fun succeeded => exact.success ?_⟩
        cases outcome.symm.trans succeeded
        simp [todo]
      | _ => cases turn
    · exact fun none => absurd List.mem_cons_self (none copy)
  | some mark =>
    have marks : Action.marks run.todo = mark :: Action.marks rest := by
      rw [todo]
      exact List.filterMap_cons_some turn
    have behind := writing.behind job held
    have suffix := writing.suffix
    cases closing : run.closing with
    | true => cases (exact.closing closing).symm.trans marks
    | false =>
      have turns := (exact.working closing).trans marks
      rw [marks] at behind suffix
      obtain ⟨outcome, stamps, _⟩ := Job.apply_mark turn suffix behind applied
      refine ⟨Action.marks rest, (List.suffix_cons _ _).trans suffix, fun _ => rfl, by simp, ?_,
        ?_, ?_⟩
      · intro member
        cases turns.symm.trans (later (by simpa using member))
      · intro other member
        obtain rfl : other = copy := by simpa [clear other] using member
        exact ⟨Progress.Level.marked (turns ▸ level) suffix stamps, by simp [outcome]⟩
      · exact fun none => absurd List.mem_cons_self (none copy)

theorem candid {job : Job} (exact : Exact run stored ahead) (level : job.progress.Level ahead)
    (success : job.outcome = some .success → ahead = []) : job.Candid :=
  ⟨level.inStep exact.suffix, fun succeeded => (success succeeded ▸ level).complete⟩

variable {W : Type} [Stages W] {p q : Processor (Unreliable History) W} {notes : List Note}
  {now time : Timestamp}

theorem advance (exact : Exact run (p.store.inner.find? run.id) ahead)
    (writing : Writing now run (p.store.inner.find? run.id))
    (unfailing : p.store.Unfailing)
    (candid : ∀ job, p.store.inner.find? run.id = some job → job.Candid)
    (named : ∀ copy, .save copy ∈ run.todo → copy.id = some run.id)
    (advance : p.Advance run time q notes) :
    (∀ job, q.store.inner.find? run.id = some job → job.Candid) ∧
      ∀ next, q.worker = .running next →
        ∃ ahead, Exact next (q.store.inner.find? run.id) ahead := by
  -- With no copy in hand nothing is stamped that is not stored.
  have settled : ∀ {action : Action} {rest : List Action}, run.todo = action :: rest →
      (∀ copy, action ≠ .save copy) → ∀ job, p.store.inner.find? run.id = some job →
      job.isRunning = true → job.progress.Level ahead := by
    intro action rest todo other
    refine exact.settled fun copy member => ?_
    rw [todo, List.mem_cons] at member
    exact member.elim (fun same => other copy same.symm) (writing.clear todo copy)
  have broken : ∀ {action : Action} {step : Step} {rest : List Action},
      run.todo = action :: rest → action.asks? = some step → ∀ status, status ≠ .success → ∀ left,
      Exact ({ run with left }.close status) (p.store.inner.find? run.id) ahead := by
    intro action step rest todo asks status failed
    have other : ∀ copy, action ≠ .save copy := fun copy same => by cases same; cases asks
    exact exact.closes (settled todo other) fun succeeded => absurd succeeded failed
  cases advance with
  | retire spent closing => exact ⟨candid, by simp⟩
  | succeed spent working =>
    have whole : ahead = [] := by rw [exact.working working, spent]; rfl
    refine ⟨candid, fun next runs => ⟨ahead, ?_⟩⟩
    cases runs
    exact exact.closes (exact.settled (by simp [spent])) (fun _ => whole) run.left
  | done action step rest left world todo asks answer =>
    have other : ∀ copy, action ≠ .save copy := fun copy same => by cases same; cases asks
    refine ⟨candid, fun next runs => ⟨ahead, ?_⟩⟩
    cases runs
    refine exact.drops (settled todo other) rfl ?_ ?_ (writing.clear todo)
    · rw [todo]
      cases action with
      | record change => cases asks
      | _ => rfl
    · exact fun member => todo ▸ List.mem_cons_of_mem _ member
  | wait action step rest left world todo asks answer =>
    have other : ∀ copy, action ≠ .save copy := fun copy same => by cases same; cases asks
    refine ⟨candid, fun next runs => ⟨ahead, ?_⟩⟩
    cases runs
    refine exact.drops (settled todo other) rfl ?_ ?_ (by simpa using writing.clear todo)
    · rw [todo]
      cases action with
      | record change => cases asks
      | _ => rfl
    · simp [todo]
      exact Or.inr
  | fail action step rest left world error todo asks answer =>
    refine ⟨candid, fun next runs => ⟨ahead, ?_⟩⟩
    cases runs
    exact broken todo asks (.error error.message) (by simp) left
  | panic action step rest left world detail todo asks answer =>
    refine ⟨candid, fun next runs => ⟨ahead, ?_⟩⟩
    cases runs
    exact broken todo asks (run.aborted detail) (by simp [Run.aborted]) left
  | missing change rest error store todo answer =>
    have absent := Unreliable.get_missed unfailing answer
    rw [Unreliable.get_inner answer]
    refine ⟨candid, fun next runs => ?_⟩
    cases runs
    exact exact.passes writing todo (by simp [absent])
  | declined change rest job error store todo answer applied =>
    have held := Unreliable.get_found answer
    rw [Unreliable.get_inner answer]
    refine ⟨candid, fun next runs => ?_⟩
    cases runs
    refine exact.passes writing todo fun found has => ?_
    cases held.symm.trans has
    refine Bool.eq_false_iff.mpr fun running => ?_
    obtain ⟨next, taken⟩ := exact.takes todo running (settled todo (by simp) job held running) time
    cases applied.symm.trans taken
  | changed change rest job copy store todo answer applied =>
    have held := Unreliable.get_found answer
    rw [Unreliable.get_inner answer]
    refine ⟨candid, fun next runs => ?_⟩
    cases runs
    exact exact.copies writing todo held (settled todo (by simp) job held) applied
  | saved copy rest todo =>
    have member : .save copy ∈ run.todo := by simp [todo]
    obtain ⟨level, success⟩ := exact.copied copy member
    rcases (Unreliable.update_find (named copy member) p.store).2 with ⟨_, failing⟩ | made
    · exact absurd unfailing failing
    · rw [made]
      refine ⟨fun job held => ?_, fun next runs => ⟨ahead, ?_⟩⟩
      · obtain ⟨stored, _, rfl⟩ := Option.map_eq_some_iff.mp held
        exact exact.candid level success
      · cases runs
        refine exact.drops ?_ rfl ?_ ?_ (writing.clear todo)
        · intro job held _
          obtain ⟨stored, _, rfl⟩ := Option.map_eq_some_iff.mp held
          exact level
        · rw [todo]
          rfl
        · exact fun member => todo ▸ List.mem_cons_of_mem _ member

end Exact

theorem Processor.Advance.stamps {W : Type} [Stages W] {p q : Processor (Unreliable History) W}
    {run : Run} {now : Timestamp} {notes : List Note}
    (named : ∀ copy, .save copy ∈ run.todo → copy.id = some run.id)
    (advance : p.Advance run now q notes) :
    (q.worker = .finished run.id ∨ ∃ next, q.worker = .running next ∧ next.id = run.id) ∧
      (∀ next, q.worker = .running next → ∀ copy, .save copy ∈ next.todo →
        copy.id = some next.id) ∧
      ∀ other, other ≠ run.id → q.store.inner.find? other = p.store.inner.find? other := by
  have rest : ∀ {action : Action} {rest : List Action}, run.todo = action :: rest →
      ∀ copy, .save copy ∈ rest → copy.id = some run.id :=
    fun todo copy member => named copy (todo ▸ List.mem_cons_of_mem _ member)
  cases advance with
  | retire spent closing => exact ⟨.inl rfl, by simp, fun _ _ => rfl⟩
  | succeed spent working =>
    exact ⟨.inr ⟨_, rfl, rfl⟩, by simp [Run.close], fun _ _ => rfl⟩
  | done action step later left world todo asks answer =>
    refine ⟨.inr ⟨_, rfl, rfl⟩, fun next runs => ?_, fun _ _ => rfl⟩
    cases runs
    exact rest todo
  | wait action step later left world todo asks answer =>
    refine ⟨.inr ⟨_, rfl, rfl⟩, fun next runs => ?_, fun _ _ => rfl⟩
    cases runs
    simpa using rest todo
  | fail action step later left world error todo asks answer =>
    exact ⟨.inr ⟨_, rfl, rfl⟩, by simp [Run.close], fun _ _ => rfl⟩
  | panic action step later left world detail todo asks answer =>
    exact ⟨.inr ⟨_, rfl, rfl⟩, by simp [Run.close], fun _ _ => rfl⟩
  | missing change later error store todo answer =>
    refine ⟨.inr ⟨_, rfl, rfl⟩, fun next runs => ?_, fun _ _ => by rw [Unreliable.get_inner answer]⟩
    cases runs
    exact rest todo
  | declined change later job error store todo answer applied =>
    refine ⟨.inr ⟨_, rfl, rfl⟩, fun next runs => ?_, fun _ _ => by rw [Unreliable.get_inner answer]⟩
    cases runs
    exact rest todo
  | changed change later job copy store todo answer applied =>
    refine ⟨.inr ⟨_, rfl, rfl⟩, fun next runs => ?_, fun _ _ => by rw [Unreliable.get_inner answer]⟩
    cases runs
    intro other member
    rcases List.mem_cons.mp member with same | before
    · cases same
      exact (Job.apply_id applied).trans (History.find?_id (Unreliable.get_found answer))
    · exact rest todo other before
  | saved copy later todo =>
    have own := named copy (by simp [todo])
    refine ⟨.inr ⟨_, rfl, rfl⟩, fun next runs => ?_, fun other different =>
      (Unreliable.update_find own p.store).1 other different⟩
    cases runs
    exact rest todo

end TicketReports
