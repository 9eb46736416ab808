import TicketReports.Pipeline.Scripted
import TicketReports.Proofs.Http.Desk

set_option autoImplicit false

namespace TicketReports

namespace Http

variable {W : Type}

/-- `job` is new; the other jobs stay as they are, but for finished ones that make room. -/
structure Gains (before after : History) (fresh : JobId) (job : Job) : Prop where
  absent : before.find? fresh = none
  present : after.find? fresh = some job
  others : ∀ other, other ≠ fresh → Job.Kept (before.find? other) (after.find? other)

def newJob (kind : JobKind) (fresh : JobId) (now : Timestamp) : Job :=
  { Job.new kind now with id := some fresh }

def refusedJob (kind : JobKind) (fresh : JobId) (now : Timestamp) : Job :=
  { newJob kind fresh now with outcome := some (.error AdmissionError.busy.message) }

def Shows (service : Service (Unreliable History) W) (id : JobId) (job : Job) : Prop :=
  service.processor.store.fails service.processor.store.calls .get = false →
    ∀ fresh now, (respond (looking id) fresh now service).1 = .json 200 job.toJson

/-- The answer to a request for a new job, and the service after it. -/
inductive Exit (call : Call) (fresh : JobId) (now : Timestamp)
    (before : Service (Unreliable History) W) :
    Response → Service (Unreliable History) W → Prop
  | unread (error : BodyError) (read : JobBody.read call.contentType call.body = .error error) :
      Exit call fresh now before (.error 400 error.message) before
  | unknown (text : String) (read : JobBody.read call.contentType call.body = .ok text)
      (other : ∀ kind : JobKind, text ≠ kind.name) :
      Exit call fresh now before (.error 400 ("unknown '" ++ text ++ "' job type")) before
  | unstored (kind : JobKind) (error : StoreError) (store : Unreliable History)
      (read : JobBody.read call.contentType call.body = .ok kind.name)
      (failed : JobStore.create fresh now kind before.processor.store = (.error error, store))
      (same : store.inner = before.processor.store.inner) (tells : Tells error error.response) :
      Exit call fresh now before error.response
        { before with processor := { before.processor with store } }
  | accepted (kind : JobKind) (store : Unreliable History)
      (read : JobBody.read call.contentType call.body = .ok kind.name)
      (created : JobStore.create fresh now kind before.processor.store = (.ok fresh, store))
      (ready : before.processor.ready = true)
      (gains : Gains before.processor.store.inner store.inner fresh (newJob kind fresh now))
      (shows :
        Shows
          { before with
            processor := { before.processor with store, ready := false, mailbox := some fresh } }
          fresh (newJob kind fresh now)) :
      Exit call fresh now before
        { status := 201, location := some (before.address ++ "/jobs/" ++ fresh.text) }
        { before with
          processor := { before.processor with store, ready := false, mailbox := some fresh } }
  -- The new job stays open only if the store fails while it is being closed.
  | refused (kind : JobKind) (created store : Unreliable History) (job : Job)
      (read : JobBody.read call.contentType call.body = .ok kind.name)
      (creates : JobStore.create fresh now kind before.processor.store = (.ok fresh, created))
      (shut : before.processor.ready = false)
      (gains : Gains before.processor.store.inner store.inner fresh job)
      (closed : job = refusedJob kind fresh now ∨
        job = newJob kind fresh now ∧
          (created.fails created.calls .get = true ∨
            created.fails (created.calls + 1) .update = true))
      (foreign : fresh ∉ before.processor.occupants) :
      Exit call fresh now before
        { Response.error 429 AdmissionError.busy.message with retryAfter := some 600 }
        { before with
          processor :=
            { before.processor with
              store
              counters := before.processor.counters.countRejected } }

namespace Gains

theorem push {history : History} (distinct : (history.jobs.map Job.id).Nodup) {fresh : JobId}
    (new : some fresh ∉ history.jobs.map Job.id) (kind : JobKind) (now : Timestamp) :
    Gains history (history.push (newJob kind fresh now)) fresh (newJob kind fresh now) where
  absent := History.find?_eq_none_iff.mpr new
  present := History.find?_push distinct new rfl rfl
  others := History.kept_push distinct new rfl

theorem closed {before : History} {store : Unreliable History} {kind : JobKind} {fresh : JobId}
    {now : Timestamp} (gains : Gains before store.inner fresh (newJob kind fresh now)) :
    ∃ job,
      Gains before (JobStore.markRejected fresh AdmissionError.busy.message store).2.inner fresh
        job ∧
      (job = refusedJob kind fresh now ∨
        job = newJob kind fresh now ∧
          (store.fails store.calls .get = true ∨
            store.fails (store.calls + 1) .update = true)) := by
  rcases Unreliable.markRejected_spec gains.present rfl AdmissionError.busy.message with
    marked | ⟨lost, failing⟩
  · refine ⟨refusedJob kind fresh now, ?_, .inl rfl⟩
    rw [marked]
    refine ⟨gains.absent, ?_, fun other different => ?_⟩
    · rw [History.find?_update rfl, if_pos rfl, gains.present]
      rfl
    · rw [History.find?_update rfl, if_neg different]
      exact gains.others other different
  · exact ⟨newJob kind fresh now, lost ▸ gains, .inr ⟨rfl, failing⟩⟩

end Gains

theorem shows_found {service : Service (Unreliable History) W} {id : JobId} {job : Job}
    (found : service.processor.store.inner.find? id = some job) : Shows service id job := by
  intro answers fresh now
  have gets : JobStore.get id service.processor.store =
      Unreliable.perform .get (History.get id) service.processor.store := rfl
  rw [respond_looking, gets, Unreliable.perform_answering answers, History.get, found]
  rfl

def Unhindered (call : Call) (fresh : JobId) (now : Timestamp)
    (service : Service (Unreliable History) W) : Prop :=
  ∀ kind store, call.asksForJob = true → requestedKind call = .ok kind →
    JobStore.create fresh now kind service.processor.store = (.ok fresh, store) →
      service.processor.free = true

namespace Desk.Orderly

variable {desk : Desk W} {known : List (Option JobId)}

theorem exit (orderly : desk.Orderly known) (valid : isHeaderText desk.service.address = true)
    {call : Call} (asks : call.asksForJob = true) {fresh : JobId} (new : some fresh ∉ known)
    (now : Timestamp) (unhindered : Unhindered call fresh now desk.service) :
    Exit call fresh now desk.service (respond call fresh now desk.service).1
      (respond call fresh now desk.service).2 := by
  cases read : JobBody.read call.contentType call.body with
  | error error =>
    rw [respond_asking asks, createJob, requestedKind_unread read]
    exact .unread error read
  | ok text =>
    rcases requestedKind_read read with ⟨kind, rfl, asked⟩ | ⟨other, unknown⟩
    · rw [respond_run asks asked]
      obtain ⟨answer, store, created⟩ : ∃ answer store,
          JobStore.create fresh now kind desk.service.processor.store = (answer, store) :=
        ⟨_, _, rfl⟩
      rcases Unreliable.create_answer created with ⟨_, ⟨rfl, pushed⟩ | ⟨error, rfl, same⟩⟩
      · have free := unhindered kind store asks asked created
        have unstored : some fresh ∉ desk.service.processor.store.inner.jobs.map Job.id :=
          fun held => new (orderly.stored _ held)
        have gains : Gains desk.service.processor.store.inner store.inner fresh
            (newJob kind fresh now) := pushed ▸ Gains.push orderly.distinct unstored kind now
        -- Stored and free to offer, the job is taken exactly if the worker listens.
        cases ready : desk.service.processor.ready with
        | true =>
          obtain ⟨notes, admission, _⟩ := orderly.admission
          rw [Submission.run_taken admission free ready created]
          dsimp only
          rw [verdict, Http.created, if_pos (JobId.isHeaderText_location valid fresh)]
          exact .accepted kind store read created ready gains (shows_found gains.present)
        | false =>
          rw [Submission.run_refused free ready created]
          obtain ⟨job, marked, closed⟩ := gains.closed
          exact .refused kind store _ job read created ready marked closed
            (orderly.unknown_foreign new)
      · rw [Submission.run_unstored created]
        exact .unstored kind error store read created same error.response_tells
    · rw [respond_asking asks, createJob, unknown]
      exact .unknown text read other

theorem serves [Stages W] (orderly : desk.Orderly known) (call : Call) (fresh : JobId)
    (now : Timestamp) (unhindered : Unhindered call fresh now desk.service) :
    (desk.serve call fresh now).service = (respond call fresh now desk.service).2 ∧
      (desk.serve call fresh now).answers.Perm
        ((respond call fresh now desk.service).1 :: desk.answers) := by
  by_cases asking : call.asksForJob = true ∧ ∃ kind, requestedKind call = .ok kind
  · obtain ⟨asks, kind, asked⟩ := asking
    obtain ⟨notes, admission, _⟩ := orderly.admission
    have free : ∀ id store,
        JobStore.create fresh now kind desk.service.processor.store = (.ok id, store) →
        desk.service.processor.free = true := by
      intro id store created
      rcases (Unreliable.create_answer created).2 with ⟨made, _⟩ | ⟨_, failed, _⟩
      · cases made
        exact unhindered kind store asks asked created
      · cases failed
    obtain ⟨ends, ended⟩ := Submission.run_ends admission free
    rw [desk.serve_asking asks asked, respond_run asks asked, ended]
    refine ⟨rfl, ?_⟩
    -- Its answer stands among those to requests for jobs, behind the others.
    simp only [answers, List.filterMap_append, List.filterMap_cons, List.filterMap_nil,
      Post.answer?, ← List.append_assoc]
    exact List.perm_append_singleton _ _
  · have other : ∀ kind, call.asksForJob = true → requestedKind call ≠ .ok kind :=
      fun kind asks asked => asking ⟨asks, kind, asked⟩
    have address := (respond_reads other fresh now desk.service).address
    rw [desk.serve_other other]
    refine ⟨rfl, ?_⟩
    simp only [answers, address, List.append_assoc]
    exact List.perm_middle

end Desk.Orderly

/-- Requests for new jobs are all or nothing; every refusal is counted once, and no refused job gets
to the worker. -/
theorem new_jobs_are_all_or_nothing [Stages W] (timeLimit : Nat) (store : Unreliable History)
    (world : W) (address : String) (valid : isHeaderText address = true)
    (happenings : List Happening) (apart : ∀ happening ∈ happenings, happening.orderly = true)
    (fresh : (store.inner.jobs.map Job.id ++ (Happening.drawn happenings).map some).Nodup) :
    let desk := (Desk.new timeLimit store world address).takeAll happenings
    desk.service.address = address ∧
      desk.service.processor.counters.rejected =
        desk.answers.countP (fun answer => answer.status == 429) +
          desk.posts.countP Post.puttingOff ∧
      (∀ post ∈ desk.posts, ∀ id, post.stage.refused? = some id →
        id ∉ desk.service.processor.occupants) ∧
      (desk.service.processor.free = false → ∃ post ∈ desk.posts, ∃ id, post.stage = .offered id) ∧
      ∀ (call : Call) (id : JobId) (now : Timestamp),
        some id ∉ store.inner.jobs.map Job.id ++ (Happening.drawn happenings).map some →
        Unhindered call id now desk.service →
          (desk.serve call id now).service = (respond call id now desk.service).2 ∧
          (desk.serve call id now).answers.Perm
            ((respond call id now desk.service).1 :: desk.answers) ∧
          (call.asksForJob = false → Reads desk.service (respond call id now desk.service)) ∧
          (call.asksForJob = true →
            Exit call id now desk.service (respond call id now desk.service).1
              (respond call id now desk.service).2) := by
  intro desk
  have distinct := (List.nodup_append.mp fresh).1
  have orderly : desk.Orderly _ :=
    (Desk.Orderly.new timeLimit store world address distinct).takeAll happenings apart fresh
  have same : desk.service.address = address := Desk.takeAll_address _ happenings
  refine ⟨same, orderly.rejected, fun post member id => orderly.foreign member, fun taken => ?_,
    fun call id now new unhindered => ?_⟩
  · obtain ⟨id, calls⟩ : ∃ id, desk.service.processor.caller = some id := by
      rw [Processor.free, Option.isNone_eq_false_iff, Option.isSome_iff_exists] at taken
      exact taken
    obtain ⟨post, member, offered⟩ := orderly.calling id calls
    exact ⟨post, member, id, offered⟩
  · obtain ⟨service, answers⟩ := orderly.serves call id now unhindered
    exact ⟨service, answers, fun other => respond_other other id now desk.service,
      fun asks => orderly.exit (same ▸ valid) asks new now unhindered⟩

section Busy

def posting (kind : JobKind) : Call :=
  { method := "POST", target := "/jobs", contentType := some "application/json"
    body := "\x7b\"type\":\"" ++ kind.name ++ "\"\x7d" }

def oneAccepted : List Happening :=
  [.event .start, .event (.work false ⟨0, 0⟩), .event (.work false ⟨0, 0⟩),
    .event (.work false ⟨0, 0⟩), .request (posting .all) ⟨1⟩ ⟨1, 0⟩, .step 0, .step 0, .step 0]

def busyDesk : Desk Scripted :=
  (Desk.new 60 { inner := .withCapacity 1 } ({} : Scripted) "http://reports.example.com").takeAll
    oneAccepted

theorem busy_service_puts_off :
    busyDesk.service.processor.mailbox = some ⟨1⟩ ∧
      busyDesk.service.processor.counters.rejected =
        busyDesk.answers.countP (fun answer => answer.status == 429) ∧
      Exit (posting .fieldEngineers) ⟨2⟩ ⟨2, 0⟩ busyDesk.service
        (respond (posting .fieldEngineers) ⟨2⟩ ⟨2, 0⟩ busyDesk.service).1
        (respond (posting .fieldEngineers) ⟨2⟩ ⟨2, 0⟩ busyDesk.service).2 ∧
      (respond (posting .fieldEngineers) ⟨2⟩ ⟨2, 0⟩ busyDesk.service).1.status = 429 := by
  obtain ⟨_, rejected, _, _, exits⟩ := new_jobs_are_all_or_nothing 60
    { inner := .withCapacity 1 } ({} : Scripted) "http://reports.example.com" (by decide +kernel)
    oneAccepted (by decide) (by decide)
  have free : busyDesk.service.processor.free = true := by decide +kernel
  obtain ⟨_, _, _, exit⟩ := exits (posting .fieldEngineers) ⟨2⟩ ⟨2, 0⟩ (by decide)
    fun _ _ _ _ _ => free
  have idle : busyDesk.posts.countP Post.puttingOff = 0 := by decide +kernel
  exact ⟨by decide +kernel, rejected.trans (by rw [← busyDesk, idle, Nat.add_zero]),
    exit (by decide +kernel), by decide +kernel⟩

end Busy

end Http

end TicketReports
