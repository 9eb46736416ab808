import Mathlib.Data.List.TakeWhile
import TicketReports.Proofs.Job.Naming
import TicketReports.Proofs.Service.Handling

set_option autoImplicit false

namespace TicketReports

/-- How an error is told: with status 404 that something is not there, with 400 what the client got
wrong, and with 500 whatever else went wrong. -/
inductive Http.Tells : StoreError → Http.Response → Prop
  | absent {error : StoreError} (missing : error = .domain .notFound ∨ ∃ id, error = .notFound id) :
    Tells error (.error 404 error.message)
  | mistaken {error : StoreError} {lead detail : String}
      (mistake : error = .domain (.validation detail) ∨ error = .domain (.invalidId detail))
      (whole : error.message = lead ++ detail) : Tells error (.error 400 detail)
  | failed {error : StoreError}
      (broken : error = .empty ∨
        ∃ detail, error = .storage detail ∨ error = .domain (.invariant detail)) :
      Tells error (.error 500 error.message)

theorem StoreError.response_tells (error : StoreError) : Http.Tells error error.response := by
  match error with
  | .notFound id => exact .absent (.inr ⟨id, rfl⟩)
  | .empty => exact .failed (.inl rfl)
  | .storage detail => exact .failed (.inr ⟨detail, .inl rfl⟩)
  | .domain .notFound => exact .absent (.inl rfl)
  | .domain (.validation detail) => exact .mistaken (.inl rfl) rfl
  | .domain (.invalidId detail) => exact .mistaken (.inr rfl) rfl
  | .domain (.invariant detail) => exact .failed (.inr ⟨detail, .inr rfl⟩)

theorem StoreError.response_status (error : StoreError) : error.response.status ≠ 429 := by
  have tells := error.response_tells
  generalize error.response = response at tells
  cases tells <;> simp [Http.Response.error, Http.Response.json]

theorem DomainError.response_status (error : DomainError) : error.response.status ≠ 429 :=
  StoreError.response_status (.domain error)

namespace Unreliable

theorem perform_reads {α : Type} {call : StoreCall} {run : History → StoreAnswer History α}
    {store : Unreliable History} (reads : (run store.inner).2 = store.inner) :
    (perform call run store).2 = { store with calls := store.calls + 1 } := by
  unfold perform
  dsimp only
  split
  · rfl
  · rw [reads]

end Unreliable

namespace Http

namespace Call

theorem path_below {text : String} (plain : ∀ c ∈ text.toList, c ≠ '?' ∧ c ≠ '#')
    (method : String) : Call.path { method, target := "/jobs/" ++ text } = "/jobs/" ++ text := by
  have below : ("/jobs/" ++ text).toList = "/jobs/".toList ++ text.toList := String.toList_append
  have all : ∀ c ∈ ("/jobs/" ++ text).toList, c ≠ '?' ∧ c ≠ '#' := by
    intro c member
    rw [below, List.mem_append] at member
    rcases member with front | back
    · have sent : "/jobs/".toList.all (fun c => c != '?' && c != '#') = true := by decide
      simpa using List.all_eq_true.mp sent c front
    · exact plain c back
  have whole : Call.address { method, target := "/jobs/" ++ text } = ("/jobs/" ++ text).toList := by
    rw [address, List.takeWhile_eq_self_iff.mpr fun c member => by simpa using (all c member).2,
      below]
    rfl
  rw [path, whole, List.takeWhile_eq_self_iff.mpr fun c member => by simpa using (all c member).1,
    String.ofList_toList]

end Call

theorem Route.ofPath_below {text : String} (some' : text ≠ "") (plain : '/' ∉ text.toList) :
    ofPath ("/jobs/" ++ text) = .job text := by
  have below : ("/jobs/" ++ text).toList = "/jobs/".toList ++ text.toList := String.toList_append
  -- None of the routes that are compared as a whole starts like this.
  have start : ("/jobs/" ++ text).toList.take 6 = "/jobs/".toList := by
    rw [below]
    rfl
  have differs : ∀ other : String, other.toList.take 6 ≠ "/jobs/".toList →
      "/jobs/" ++ text ≠ other := by
    rintro other different rfl
    exact different start
  rw [ofPath, if_neg (differs _ (by decide)), if_neg (differs _ (by decide)),
    if_neg (differs _ (by decide))]
  have rest : ("/jobs/" ++ text).toList.drop jobsPath.length = '/' :: text.toList := by
    rw [below]
    rfl
  have front : ("/jobs/" ++ text).toList.take jobsPath.length = jobsPath := by
    rw [below]
    rfl
  have nonempty : text.toList ≠ [] := by simpa using some'
  simp only [rest, front, nonempty, plain, ne_eq, not_false_eq_true, and_self, if_true,
    String.ofList_toList]

section Stored

variable {σ W : Type}

theorem stored_status {α : Type} (service : Service σ W) (call : StoreAnswer σ α)
    (encode : α → Json) : (stored service call encode).1.status ≠ 429 := by
  obtain ⟨answer, store⟩ := call
  cases answer with
  | ok value => simp [stored, Response.json]
  | error error => exact error.response_status

theorem stored_after {α : Type} (service : Service σ W) (call : StoreAnswer σ α)
    (encode : α → Json) : (stored service call encode).2 =
      { service with processor := { service.processor with store := call.2 } } := by
  obtain ⟨answer, store⟩ := call
  cases answer <;> rfl

end Stored

variable {σ W : Type} [JobStore σ]

def looking (id : JobId) : Call := { method := "GET", target := "/jobs/" ++ id.text }

theorem respond_looking (id fresh : JobId) (now : Timestamp) (service : Service σ W) :
    respond (looking id) fresh now service =
      stored service (JobStore.get id service.processor.store) Job.toJson := by
  have path : (looking id).path = "/jobs/" ++ id.text :=
    Call.path_below (id.text_all (by decide) (by decide)) "GET"
  have nonempty : id.text ≠ "" := by
    intro empty
    have length := id.text_length
    rw [empty] at length
    cases length
  have route : Route.ofPath (looking id).path = .job id.text := by
    have noSlash : ∀ c ∈ id.text.toList, c ≠ '/' := id.text_all (by decide) (by decide)
    rw [path, Route.ofPath_below nonempty fun member => noSlash '/' member rfl]
  have shown : showJob id.text service =
      stored service (JobStore.get id service.processor.store) Job.toJson := by
    simp only [showJob, id.pathPart?_text, id.read_text]
  have method : (looking id).method = "GET" := rfl
  simp [respond, route, show?, shown, method]

theorem verdict_created (address : String) (id : JobId) :
    (verdict address (.ended (.created id))).status = 201 := by
  unfold verdict created
  dsimp only
  split <;> rfl

def Call.asksForJob (call : Call) : Bool := Route.ofPath call.path = .jobs ∧ call.method = "POST"

theorem respond_asking {call : Call} (asks : call.asksForJob = true) (fresh : JobId)
    (now : Timestamp) (service : Service σ W) :
    respond call fresh now service = createJob call fresh now service := by
  have both : Route.ofPath call.path = .jobs ∧ call.method = "POST" := by
    simpa [Call.asksForJob] using asks
  rw [respond, if_pos both]

theorem respond_run {call : Call} (asks : call.asksForJob = true) {kind : JobKind}
    (asked : requestedKind call = .ok kind) (fresh : JobId) (now : Timestamp)
    (service : Service σ W) :
    respond call fresh now service =
      (verdict service.address
          (Submission.run fresh now Submission.stepCount (.storing kind) service.processor).1,
        { service with
          processor := (Submission.run fresh now Submission.stepCount (.storing kind)
            service.processor).2.1 }) := by
  rw [respond_asking asks, createJob, asked]

theorem requestedKind_unread {call : Call} {error : BodyError}
    (read : JobBody.read call.contentType call.body = .error error) :
    requestedKind call = .error (.error 400 error.message) := by
  rw [requestedKind, read]

theorem requestedKind_read {call : Call} {text : String}
    (read : JobBody.read call.contentType call.body = .ok text) :
    (∃ kind : JobKind, text = kind.name ∧ requestedKind call = .ok kind) ∨
      (∀ kind : JobKind, text ≠ kind.name) ∧
        requestedKind call = .error (.error 400 ("unknown '" ++ text ++ "' job type")) := by
  rw [requestedKind, read]
  dsimp only
  rw [JobKind.read]
  cases found : JobKind.ofName? text with
  | some kind =>
    have named : kind.name = text := by
      simpa using List.find?_some (p := fun kind : JobKind => kind.name == text) found
    exact .inl ⟨kind, named.symm, rfl⟩
  | none =>
    refine .inr ⟨?_, rfl⟩
    rintro kind rfl
    rw [JobKind.ofName?_name] at found
    cases found

theorem requestedKind_status {call : Call} {refusal : Response}
    (refused : requestedKind call = .error refusal) : refusal.status = 400 := by
  cases read : JobBody.read call.contentType call.body with
  | error error =>
    rw [requestedKind_unread read] at refused
    cases refused
    rfl
  | ok text =>
    rcases requestedKind_read read with ⟨kind, _, known⟩ | ⟨_, unknown⟩
    · cases refused.symm.trans known
    · rw [unknown] at refused
      cases refused
      rfl

def Reads (before : Service (Unreliable History) W)
    (answered : Response × Service (Unreliable History) W) : Prop :=
  answered.1.status ≠ 429 ∧ ∃ calls, answered.2 = { before with
    processor := { before.processor with store := { before.processor.store with calls } } }

namespace Reads

variable {service : Service (Unreliable History) W}

theorem untouched {answer : Response} (status : answer.status ≠ 429) :
    Reads service (answer, service) :=
  ⟨status, service.processor.store.calls, rfl⟩

theorem address {answered : Response × Service (Unreliable History) W}
    (reads : Reads service answered) : answered.2.address = service.address := by
  obtain ⟨_, calls, same⟩ := reads
  rw [same]

theorem stored {α : Type} {call : StoreAnswer (Unreliable History) α}
    (read : call.2 = { service.processor.store with calls := service.processor.store.calls + 1 })
    (encode : α → Json) : Reads service (stored service call encode) :=
  ⟨stored_status service call encode, _, by rw [stored_after, read]⟩

theorem listJobs (query : String) : Reads service (listJobs query service) := by
  unfold Http.listJobs
  split
  next refusal wrong =>
    unfold pageOf at wrong
    split at wrong
    next => cases wrong
    next => cases wrong
    next => cases wrong; exact untouched (by simp [Response.plain])
  next text asked =>
    split
    next reason wrong => exact untouched (by simp [Response.error, Response.json])
    next number page =>
      unfold JobStore.listPage
      split
      next error wrong => exact ⟨stored_status _ _ _, _, stored_after _ _ _⟩
      next page found => exact stored (Unreliable.perform_reads rfl) _

theorem showJob (id : String) : Reads service (showJob id service) := by
  unfold Http.showJob
  split
  next => exact untouched (by simp [Response.plain])
  next text part =>
    split
    next error wrong => exact untouched error.response_status
    next id read => exact stored (Unreliable.perform_reads (History.get_eq id _)) _

theorem shown {call : Call} {route : Route}
    {answered : Response × Service (Unreliable History) W}
    (answers : show? call route service = some answered) : Reads service answered := by
  unfold show? at answers
  split at answers
  next => exact Option.some.inj answers ▸ untouched (by simp)
  next => exact Option.some.inj answers ▸ untouched (by simp)
  next => exact Option.some.inj answers ▸ listJobs call.query
  next id => exact Option.some.inj answers ▸ showJob id
  next => cases answers

end Reads

theorem respond_other {call : Call} (other : call.asksForJob = false) (fresh : JobId)
    (now : Timestamp) (service : Service (Unreliable History) W) :
    Reads service (respond call fresh now service) := by
  have notAsking : ¬(Route.ofPath call.path = .jobs ∧ call.method = "POST") := by
    simpa [Call.asksForJob] using other
  rw [respond, if_neg notAsking]
  cases shown : show? call (Route.ofPath call.path) service with
  | none => exact .untouched (by simp [notFound, Response.error, Response.json])
  | some answered =>
    have reads := Reads.shown shown
    dsimp only
    split
    · exact reads
    · split
      · exact reads
      · exact .untouched (by simp)

theorem respond_reads {call : Call}
    (other : ∀ kind, call.asksForJob = true → requestedKind call ≠ .ok kind) (fresh : JobId)
    (now : Timestamp) (service : Service (Unreliable History) W) :
    Reads service (respond call fresh now service) := by
  cases asks : call.asksForJob with
  | false => exact respond_other asks fresh now service
  | true =>
    cases asked : requestedKind call with
    | ok kind => exact absurd asked (other kind asks)
    | error refusal =>
      rw [respond_asking asks, createJob, asked]
      exact .untouched (by simp [requestedKind_status asked])

end Http

end TicketReports
