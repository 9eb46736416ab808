import TicketReports.Proofs.Processor.Stamping
import TicketReports.Proofs.Service.Outcome

set_option autoImplicit false

namespace TicketReports

theorem History.mem_push_ids {history : History} {job : Job} {id : Option JobId}
    (member : id ∈ (history.push job).jobs.map Job.id) :
    id ∈ history.jobs.map Job.id ∨ id = job.id := by
  obtain ⟨found, stored, rfl⟩ := List.mem_map.mp member
  rcases List.mem_append.mp ((History.dropFinished_sublist _ _).subset stored) with old | new
  · exact .inl (List.mem_map_of_mem old)
  · exact .inr (congrArg Job.id (List.mem_singleton.mp new))

namespace Unreliable

theorem markRejected_spec {id : JobId} {job : Job} {store : Unreliable History}
    (held : store.inner.find? id = some job) (running : job.isRunning = true) (reason : String) :
    (JobStore.markRejected id reason store).2.inner =
        (History.update { job with outcome := some (.error reason) } store.inner).2 ∨
      ((JobStore.markRejected id reason store).2.inner = store.inner ∧
        (store.fails store.calls .get = true ∨ store.fails (store.calls + 1) .update = true)) := by
  have gets : JobStore.get id store = perform .get (History.get id) store := rfl
  have found : History.get id store.inner = (.ok job, store.inner) := by
    rw [History.get, held]
  rw [JobStore.markRejected, JobStore.change, gets]
  cases loads : store.fails store.calls .get with
  | true =>
    rw [perform_failing loads]
    exact .inr ⟨rfl, .inl rfl⟩
  | false =>
    rw [perform_answering loads, found]
    simp only [Job.finish_running running]
    have updates : ∀ job (store : Unreliable History),
        JobStore.update job store = perform .update (History.update job) store := fun _ _ => rfl
    rw [updates]
    cases saves : store.fails (store.calls + 1) .update with
    | true =>
      rw [perform_failing saves]
      exact .inr ⟨rfl, .inr rfl⟩
    | false =>
      rw [perform_answering saves]
      exact .inl rfl

end Unreliable

namespace Submission

section Moves

variable {σ W : Type} [JobStore σ]

inductive Move (fresh : JobId) (now : Timestamp) (p : Processor σ W) :
    Submission → Submission → Processor σ W → List Note → Prop
  | failed (kind : JobKind) (error : StoreError) (store : σ)
      (answer : JobStore.create fresh now kind p.store = (.error error, store)) :
      Move fresh now p (.storing kind) (.ended (.failed error)) { p with store } []
  | stored (kind : JobKind) (id : JobId) (store : σ)
      (answer : JobStore.create fresh now kind p.store = (.ok id, store)) :
      Move fresh now p (.storing kind) (.offering id) { p with store } []
  | waits (id : JobId) (taken : p.free = false) :
      Move fresh now p (.offering id) (.offering id) p []
  | taken (id : JobId) (free : p.free = true)
      (entered : p.enter id = ({ p with mailbox := some id, caller := some id }, [])) :
      Move fresh now p (.offering id) (.offered id)
        { p with mailbox := some id, caller := some id } []
  | refused (id : JobId) (free : p.free = true) (entered : p.enter id = (p, [.refused id])) :
      Move fresh now p (.offering id) (.loading id .busy)
        { p with counters := p.counters.countRejected } [.refused id]
  | left (id : JobId) :
      Move fresh now p (.offered id) (.ended (.created id)) p.leave.1 p.leave.2
  | gaveUp (id : JobId) (error : AdmissionError) :
      Move fresh now p (.loading id error) (.ended (.refused id error))
        { p with store := (JobStore.get id p.store).2 } []
  | loaded (id : JobId) (error : AdmissionError) (job closed : Job)
      (found : (JobStore.get id p.store).1 = .ok job)
      (ended : job.finish (.error error.message) = .ok closed) :
      Move fresh now p (.loading id error) (.saving id error closed)
        { p with store := (JobStore.get id p.store).2 } []
  | saved (id : JobId) (error : AdmissionError) (job : Job) :
      Move fresh now p (.saving id error job) (.ended (.refused id error))
        { p with store := (JobStore.update job p.store).2 } []
  | rests (verdict : Verdict) : Move fresh now p (.ended verdict) (.ended verdict) p []

theorem step_spec (fresh : JobId) (now : Timestamp) (submission : Submission)
    (p : Processor σ W) :
    Move fresh now p submission (submission.step fresh now p).1 (submission.step fresh now p).2.1
      (submission.step fresh now p).2.2 := by
  cases submission with
  | storing kind =>
    unfold step
    dsimp only
    split
    next error store answer => exact .failed kind error store answer
    next id store answer => exact .stored kind id store answer
  | offering id =>
    unfold step offer
    dsimp only
    by_cases free : p.free = true
    · rw [if_neg (by simp [free])]
      rcases Processor.enter_free free id with entered | entered
      · rw [entered]
        exact .taken id free entered
      · rw [entered]
        exact .refused id free entered
    · rw [if_pos (by simpa using free)]
      exact .waits id (by simpa using free)
  | offered id => exact .left id
  | loading id error =>
    unfold step load
    dsimp only
    obtain ⟨answer, store, found⟩ : ∃ answer store, JobStore.get id p.store = (answer, store) :=
      ⟨_, _, rfl⟩
    have left : (JobStore.get id p.store).2 = store := by rw [found]
    rw [found]
    subst left
    cases answer with
    | error missing => exact .gaveUp id error
    | ok job =>
      dsimp only
      split
      next => exact .gaveUp id error
      next closed ended => exact .loaded id error job closed (by rw [found]) ended
  | saving id error job => exact .saved id error job
  | ended verdict => exact .rests verdict

variable {fresh : JobId} {now : Timestamp} {p q : Processor σ W} {before after : Submission}
  {later : List Note}

theorem Move.counted (move : Move fresh now p before after q later) :
    q.counters.rejected + (if before.refused?.isSome then 1 else 0) =
      p.counters.rejected + if after.refused?.isSome then 1 else 0 := by
  cases move with
  | left id =>
    obtain ⟨ready, same⟩ := p.leave_frees
    rw [same]
    rfl
  | _ => rfl

theorem Move.admission {notes : List Note} (move : Move fresh now p before after q later)
    (admission : Processor.Admission p notes) : Processor.Admission q (notes ++ later) := by
  cases move with
  | failed kind error store answer => simpa using admission.aside store p.counters
  | stored kind id store answer => simpa using admission.aside store p.counters
  | waits id taken => simpa using admission
  | taken id free entered =>
    have entering := admission.enter id
    rwa [entered] at entering
  | refused id free entered =>
    have entering := admission.enter id
    rw [entered] at entering
    exact entering.aside p.store p.counters.countRejected
  | left id => exact admission.leave
  | gaveUp id error => simpa using admission.aside (JobStore.get id p.store).2 p.counters
  | loaded id error job closed found ended =>
    simpa using admission.aside (JobStore.get id p.store).2 p.counters
  | saved id error job => simpa using admission.aside (JobStore.update job p.store).2 p.counters
  | rests verdict => simpa using admission

theorem Move.accepted {notes : List Note} (move : Move fresh now p before after q later)
    {id : JobId} (member : id ∈ Note.admissions (notes ++ later) ++ q.caller.toList) :
    after.accepted? = some id ∨ id ∈ Note.admissions notes ++ p.caller.toList := by
  rw [Note.admissions_append] at member
  cases move with
  | taken other free entered =>
    rcases List.mem_append.mp member with told | calls
    · exact .inr (List.mem_append_left _ (by simpa [Note.admissions] using told))
    · exact .inl (Option.mem_toList.mp calls)
  | left other =>
    unfold Processor.leave at member
    split at member
    next nobody => exact .inr (by simpa [Note.admissions, nobody] using member)
    next calls => exact .inr (by simpa [Note.admissions, Note.admitted?, calls] using member)
  | _ => exact .inr (by simpa [Note.admissions, Note.admitted?] using member)

theorem Move.calling (move : Move fresh now p before after q later) {id : JobId}
    (calls : q.caller = some id) :
    after = .offered id ∨ (p.caller = some id ∧ before ≠ .offered id) := by
  cases move with
  | taken other free entered => cases calls; exact .inl rfl
  | left other =>
    obtain ⟨ready, same⟩ := p.leave_frees
    rw [same] at calls
    cases calls
  | _ => exact .inr ⟨calls, nofun⟩

section Unbroken

variable {kind : JobKind} {id : JobId} {store : σ}

theorem run_succ (stepped : before.step fresh now p = (after, q, later)) (fuel : Nat) :
    run fresh now (fuel + 1) before p =
      ((run fresh now fuel after q).1, (run fresh now fuel after q).2.1,
        later ++ (run fresh now fuel after q).2.2) := by
  rw [run, stepped]

theorem run_ended (fuel : Nat) (verdict : Verdict) :
    run fresh now fuel (.ended verdict) p = (.ended verdict, p, []) := by
  induction fuel with
  | zero => rfl
  | succ fuel ih =>
    have rests : step fresh now (.ended verdict) p = (.ended verdict, p, []) := rfl
    rw [run_succ rests, ih]
    rfl

theorem run_unstored {error : StoreError}
    (answer : JobStore.create fresh now kind p.store = (.error error, store)) :
    run fresh now stepCount (.storing kind) p = (.ended (.failed error), { p with store }, []) := by
  have failed : step fresh now (.storing kind) p =
      (.ended (.failed error), { p with store }, []) := by
    rw [step, answer]
  rw [stepCount, run_succ failed, run_ended]
  rfl

theorem step_stored (answer : JobStore.create fresh now kind p.store = (.ok id, store)) :
    step fresh now (.storing kind) p = (.offering id, { p with store }, []) := by
  rw [step, answer]

theorem run_taken {notes : List Note} (admission : Processor.Admission p notes)
    (free : p.free = true) (ready : p.ready = true)
    (answer : JobStore.create fresh now kind p.store = (.ok id, store)) :
    run fresh now stepCount (.storing kind) p =
      (.ended (.created id), { p with store, ready := false, mailbox := some id },
        [.admitted id]) := by
  have nobody : p.caller = none := by simpa [Processor.free] using free
  -- The worker listens, so nobody's job lies in the mailbox.
  have entered := (admission.aside store p.counters).enter_open free ready id
  have offered : step fresh now (.offering id) { p with store } =
      (.offered id, { p with store, mailbox := some id, caller := some id }, []) := by
    have stillFree : Processor.free { p with store } = true := free
    simp [step, offer, stillFree, entered]
  have left : step fresh now (.offered id) { p with store, mailbox := some id, caller := some id } =
      (.ended (.created id), { p with store, ready := false, mailbox := some id },
        [.admitted id]) := by
    simp [step, Processor.leave, nobody]
  rw [stepCount, run_succ (step_stored answer), run_succ offered, run_succ left, run_ended]
  rfl

theorem run_loading (error : AdmissionError) :
    run fresh now 2 (.loading id error) p =
      (.ended (.refused id error),
        { p with store := (JobStore.markRejected id error.message p.store).2 }, []) := by
  obtain ⟨answer, after, found⟩ : ∃ answer after, JobStore.get id p.store = (answer, after) :=
    ⟨_, _, rfl⟩
  rw [JobStore.markRejected, JobStore.change]
  cases answer with
  | error missing =>
    have gaveUp : step fresh now (.loading id error) p =
        (.ended (.refused id error), { p with store := after }, []) := by
      rw [step, load, found]
    rw [run_succ gaveUp, run_ended, found]
    rfl
  | ok job =>
    cases closed : job.finish (.error error.message) with
    | error wrong =>
      have gaveUp : step fresh now (.loading id error) p =
          (.ended (.refused id error), { p with store := after }, []) := by
        simp only [step, load, found, closed]
      rw [run_succ gaveUp, run_ended, found]
      simp only [closed, List.nil_append]
    | ok next =>
      -- The only way on which the second step is another call.
      have loaded : step fresh now (.loading id error) p =
          (.saving id error next, { p with store := after }, []) := by
        simp only [step, load, found, closed]
      rw [run_succ loaded, run_succ rfl, run, found]
      simp only [closed, List.nil_append]

theorem run_refused (free : p.free = true) (shut : p.ready = false)
    (answer : JobStore.create fresh now kind p.store = (.ok id, store)) :
    run fresh now stepCount (.storing kind) p =
      (.ended (.refused id .busy),
        { p with
          store := (JobStore.markRejected id AdmissionError.busy.message store).2
          counters := p.counters.countRejected },
        [.refused id]) := by
  have stillFree : Processor.free { p with store } = true := free
  have entered : Processor.enter id { p with store } = ({ p with store }, [.refused id]) := by
    rcases Processor.enter_free stillFree id with filled | refused
    · cases shut.symm.trans (Processor.enter_filled stillFree filled).1
    · exact refused
  have declined : step fresh now (.offering id) { p with store } =
      (.loading id .busy, { p with store, counters := p.counters.countRejected },
        [.refused id]) := by
    simp [step, offer, stillFree, entered]
  rw [stepCount, run_succ (step_stored answer), run_succ declined, run_loading]
  rfl

theorem run_ends {notes : List Note} (admission : Processor.Admission p notes)
    (unhindered : ∀ id store, JobStore.create fresh now kind p.store = (.ok id, store) →
      p.free = true) :
    ∃ verdict, (run fresh now stepCount (.storing kind) p).1 = .ended verdict := by
  obtain ⟨answer, store, created⟩ : ∃ answer store,
      JobStore.create fresh now kind p.store = (answer, store) := ⟨_, _, rfl⟩
  cases answer with
  | error error => exact ⟨_, congrArg Prod.fst (run_unstored created)⟩
  | ok id =>
    have free := unhindered id store created
    cases ready : p.ready with
    | true => exact ⟨_, congrArg Prod.fst (run_taken admission free ready created)⟩
    | false => exact ⟨_, congrArg Prod.fst (run_refused free ready created)⟩

end Unbroken

end Moves

section Stored

variable {W : Type} {fresh : JobId} {now : Timestamp} {p q : Processor (Unreliable History) W}
  {before after : Submission} {later : List Note}

theorem Move.stores (move : Move fresh now p before after q later) :
    (q.store.inner.jobs.map Job.id = p.store.inner.jobs.map Job.id ∧ after.id? = before.id?) ∨
      (before.id? = none ∧ after.id? = some fresh ∧
        ∃ kind, q.store.inner = p.store.inner.push { Job.new kind now with id := some fresh }) := by
  cases move with
  | failed kind error store answer =>
    rcases (Unreliable.create_answer answer).2 with ⟨made, _⟩ | ⟨_, _, same⟩
    · cases made
    · exact .inl ⟨by rw [same], rfl⟩
  | stored kind id store answer =>
    rcases (Unreliable.create_answer answer).2 with ⟨made, pushed⟩ | ⟨_, failed, _⟩
    · cases made
      exact .inr ⟨rfl, rfl, kind, pushed⟩
    · cases failed
  | left id =>
    obtain ⟨ready, same⟩ := p.leave_frees
    rw [same]
    exact .inl ⟨rfl, rfl⟩
  -- A job that is loaded or saved has its id already.
  | gaveUp id error => exact .inl ⟨by rw [(Unreliable.get_spec id p.store).1], rfl⟩
  | loaded id error job closed found ended =>
    exact .inl ⟨by rw [(Unreliable.get_spec id p.store).1], rfl⟩
  | saved id error job => exact .inl ⟨Unreliable.update_ids job p.store, rfl⟩
  | _ => exact .inl ⟨rfl, rfl⟩

end Stored

end Submission

end TicketReports
