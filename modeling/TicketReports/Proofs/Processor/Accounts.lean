import TicketReports.Proofs.Processor.Tally

set_option autoImplicit false

namespace TicketReports

namespace Processor

variable {σ W : Type}

/-- The runs of the admitted jobs, in order, are all there was, and each is counted once. -/
structure Accounts (p : Processor σ (Logged W)) (notes : List Note) (ended : List Segment) :
    Prop where
  ids : ended.map Segment.id = Note.admissions notes
  calls : p.world.log = ended.flatMap Segment.calls
  played : ∀ segment ∈ ended, segment.Played
  succeeded : p.counters.succeeded = ended.countP Segment.succeeded
  failed : p.counters.failed = ended.countP fun segment => !segment.succeeded

namespace Accounts

variable {p : Processor σ (Logged W)} {notes : List Note} {ended : List Segment}

theorem total (accounts : Accounts p notes ended) :
    p.counters.failed + p.counters.succeeded = (Note.admissions notes).length := by
  have all := List.length_eq_countP_add_countP Segment.succeeded (l := ended)
  simp only [Bool.not_eq_true, Bool.decide_eq_false] at all
  rw [accounts.failed, accounts.succeeded, ← accounts.ids, List.length_map, all, Nat.add_comm]

theorem transfer (accounts : Accounts p notes ended) {past : List Segment}
    (ids : past.map Segment.id = Note.admissions notes)
    (calls : p.world.log = past.flatMap Segment.calls)
    (played : ∀ segment ∈ past, segment.Played) : Accounts p notes past := by
  have same : ended.map Segment.calls = past.map Segment.calls := by
    rw [← callsByRun_flatMap accounts.played, ← callsByRun_flatMap played, ← accounts.calls, calls]
  obtain ⟨succeeded, failed⟩ := Segment.countP_congr same
  exact ⟨ids, calls, played, accounts.succeeded.trans succeeded, accounts.failed.trans failed⟩

end Accounts

theorem Tally.accounts {p : Processor σ (Logged W)} {notes : List Note}
    {seen : List (JobId × Option JobKind)} {ended : List Segment} (tally : Tally p notes seen ended)
    (free : p.free = true) (ready : p.ready = true) : Accounts p notes ended := by
  obtain ⟨held, empty⟩ := tally.admission.deserted free ready
  obtain ⟨awaited, idle, -⟩ := Worker.unheld held
  obtain ⟨entries, log⟩ := tally.flight.resting idle
  refine ⟨?_, log, tally.played, tally.succeeded, tally.failed⟩
  rw [tally.admission.all_begun free (by simp [pending, awaited, empty]), tally.begun]
  have ids := congrArg (List.map Prod.fst) entries
  simpa [Function.comp_def, served, Segment.entry] using ids.symm

theorem Course.trail [JobStore σ] [Steady σ] [Stages W] {timeLimit : Nat} {store : σ} {world : W}
    {p : Processor σ (Logged W)} {notes : List Note} {jobs : List (JobId × JobKind)}
    {gone : List JobId} (course : Course timeLimit store world p notes jobs gone) : ∃ seen,
      Trail (fun _ => True) timeLimit store world p notes seen := by
  induction course with
  | new => exact ⟨[], .new trivial⟩
  | step _ event _ ih =>
    obtain ⟨seen, trail⟩ := ih
    exact ⟨_, trail.step event⟩
  | accept _ id job free fits held running new ih =>
    obtain ⟨seen, trail⟩ := ih
    have next := trail.step (.enter id)
    rw [Processor.step, fits, List.append_nil] at next
    exact ⟨_, next⟩
  | others _ after left kept ih =>
    obtain ⟨seen, trail⟩ := ih
    exact ⟨seen, trail.others after trivial⟩

/-- While admission is open, every admitted job has had its run, and the two counters add up to
their number, whatever the store did. -/
theorem accounted_when_open [JobStore σ] [Stages W] {timeLimit : Nat} {store : σ} {world : W}
    {p : Processor σ (Logged W)} {notes : List Note} (free : p.free = true)
    (ready : p.ready = true) :
    (∀ {fair : σ → Prop} {seen : List (JobId × Option JobKind)},
      Trail fair timeLimit store world p notes seen →
        p.counters.failed + p.counters.succeeded = (Note.admissions notes).length ∧
          ∃ ended, Accounts p notes ended) ∧
      ∀ [Steady σ] {jobs : List (JobId × JobKind)} {gone : List JobId},
        Course timeLimit store world p notes jobs gone →
          ∃ ended, Accounts p notes ended ∧ ended.map Segment.entry = jobs ∧
            ∀ segment ∈ ended, ∀ job, Steady.peek segment.id p.store = some job →
              job.outcome = some segment.status ∧
                (job.outcome = some .success ↔ segment.succeeded = true) := by
  have books : ∀ {fair : σ → Prop} {seen : List (JobId × Option JobKind)},
      Trail fair timeLimit store world p notes seen → ∃ ended, Accounts p notes ended := by
    intro fair seen trail
    obtain ⟨ended, tally⟩ := Tally.reached trail
    exact ⟨ended, tally.accounts free ready⟩
  refine ⟨fun trail => ?_, fun course => ?_⟩
  · obtain ⟨ended, accounts⟩ := books trail
    exact ⟨accounts.total, ended, accounts⟩
  · obtain ⟨seen, trail⟩ := course.trail
    obtain ⟨ended, accounts⟩ := books trail
    obtain ⟨past, current, waiting, ledger⟩ := Ledger.reached course
    obtain ⟨held, empty⟩ := ledger.admission.deserted free ready
    obtain ⟨awaited, -, idle⟩ := Worker.unheld held
    obtain ⟨rfl, log⟩ := ledger.stands.idle idle
    have served : p.pending = [] := by simp [pending, awaited, empty]
    obtain rfl := List.map_eq_nil_iff.mp (ledger.queued.trans served)
    have ids : past.map Segment.id = Note.admissions notes := by
      rw [ledger.admission.all_begun free served, ledger.begun, List.append_nil, List.map_map]
      rfl
    -- The runs of the ledger and those of the books made the same calls.
    refine ⟨past, accounts.transfer ids log ledger.played, ?_, fun segment member job held => ?_⟩
    · rw [ledger.split, List.append_nil, List.append_nil]
    · have told := ledger.told segment member job held
      refine ⟨told, ?_⟩
      rw [told, Option.some.injEq]
      exact (ledger.played segment member).success_iff

section TwoRuns

structure Rehearsed where
  answers : List StepEnd := []

instance : Stages Rehearsed where
  perform _ left world := (world.answers.headD .done, left, ⟨world.answers.tail⟩)
  close := id

def sequel : Job := { order with id := some ⟨2⟩ }

def hesitant : Rehearsed := ⟨[.done, .done, .done, .failed refusal]⟩

def awake : Processor History (Logged Rehearsed) × List Note :=
  (Processor.new 60 (.withCapacity 2) { world := hesitant }).steps
    (.start :: Event.works 3 ⟨0, 0⟩)

def stocked : Processor History (Logged Rehearsed) :=
  { awake.1 with store := ⟨2, [order, sequel]⟩ }

def once : Processor History (Logged Rehearsed) × List Note :=
  Processor.steps { stocked with mailbox := some ⟨1⟩, caller := some ⟨1⟩ }
    (.leave :: Event.works 20 ⟨0, 0⟩)

def twice : Processor History (Logged Rehearsed) × List Note :=
  Processor.steps { once.1 with mailbox := some ⟨2⟩, caller := some ⟨2⟩ }
    (.leave :: Event.works 40 ⟨0, 0⟩)

theorem course_twice : Course 60 (.withCapacity 2) hesitant twice.1
    (awake.2 ++ once.2 ++ twice.2) [(⟨1⟩, .serviceDesk), (⟨2⟩, .serviceDesk)] [] := by
  have started : Course 60 (.withCapacity 2) hesitant awake.1 awake.2 [] [] :=
    Course.new.steps (.start :: Event.works 3 ⟨0, 0⟩) (by decide)
  have filled : Course 60 (.withCapacity 2) hesitant stocked awake.2 [] [] :=
    started.others _ [] nofun
  obtain ⟨open₁, ready₁, held₁⟩ : stocked.free = true ∧ stocked.ready = true ∧
      stocked.store.find? ⟨1⟩ = some order := by
    decide +kernel
  have first : Course 60 (.withCapacity 2) hesitant once.1 (awake.2 ++ once.2)
      [(⟨1⟩, .serviceDesk)] [] :=
    (filled.accept_open ⟨1⟩ order open₁ ready₁ held₁ rfl nofun).steps _ (by decide)
  obtain ⟨open₂, ready₂, held₂⟩ : once.1.free = true ∧ once.1.ready = true ∧
      once.1.store.find? ⟨2⟩ = some sequel := by
    decide +kernel
  exact (first.accept_open ⟨2⟩ sequel open₂ ready₂ held₂ rfl (by decide)).steps _ (by decide)

theorem accounted_after_two_runs :
    twice.1.counters.failed + twice.1.counters.succeeded =
        (Note.admissions (awake.2 ++ once.2 ++ twice.2)).length ∧
      twice.1.counters.failed = 1 ∧ twice.1.counters.succeeded = 1 ∧
      ∃ ended, Accounts twice.1 (awake.2 ++ once.2 ++ twice.2) ended ∧
        ended.map Segment.entry = [(⟨1⟩, .serviceDesk), (⟨2⟩, .serviceDesk)] ∧
        ∀ segment ∈ ended, ∀ job, Steady.peek segment.id twice.1.store = some job →
          job.outcome = some segment.status ∧
            (job.outcome = some .success ↔ segment.succeeded = true) := by
  obtain ⟨free, ready, failed, succeeded⟩ : twice.1.free = true ∧ twice.1.ready = true ∧
      twice.1.counters.failed = 1 ∧ twice.1.counters.succeeded = 1 := by
    decide +kernel
  obtain ⟨seen, trail⟩ := course_twice.trail
  obtain ⟨sums, calm⟩ := accounted_when_open free ready
  exact ⟨(sums trail).1, failed, succeeded, calm course_twice⟩

end TwoRuns

end Processor

end TicketReports
