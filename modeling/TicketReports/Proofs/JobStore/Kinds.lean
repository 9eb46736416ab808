import TicketReports.JobStore.Unreliable
import TicketReports.Proofs.JobStore.Steady

set_option autoImplicit false

namespace TicketReports

/-- A store whose lookups tell the kind that a job was stored with, which no call of the worker
changes. -/
class Kinds (σ : Type) [JobStore σ] where
  kind? : JobId → σ → Option JobKind
  get_kind {id : JobId} {store : σ} {job : Job} :
    (JobStore.get id store).1 = .ok job → kind? id store = some job.kind
  kind_get (id other : JobId) (store : σ) : kind? other (JobStore.get id store).2 = kind? other store
  kind_update (job : Job) (other : JobId) (store : σ) :
    kind? other (JobStore.update job store).2 = kind? other store
  kind_running (other : JobId) (store : σ) :
    kind? other (JobStore.running store).2 = kind? other store

def Kinds.Of {σ : Type} [JobStore σ] [Kinds σ] (kind : JobId → JobKind) (store : σ) : Prop :=
  ∀ id found, Kinds.kind? id store = some found → found = kind id

namespace History

instance : Kinds History where
  kind? id history := (history.find? id).map Job.kind
  get_kind {id history job} answer := by
    change (History.get id history).1 = .ok job at answer
    unfold History.get at answer
    split at answer
    next => cases answer
    next stored found =>
      cases answer
      rw [found]
      rfl
  kind_get id other history := by rw [get_eq]
  kind_update job other history := by
    change ((History.update job history).2.find? other).map Job.kind = _
    cases holds : job.id with
    | none => rw [History.update, holds]
    | some id =>
      rw [find?_update holds]
      by_cases same : other = id
      · subst same
        rw [if_pos rfl, Option.map_map]
        rfl
      · rw [if_neg same]
  kind_running other history := rfl

theorem kinds_of {kind : JobId → JobKind} {history : History}
    (all : ∀ job ∈ history.jobs, ∀ id, job.id = some id → job.kind = kind id) :
    Kinds.Of kind history := by
  intro id found stored
  obtain ⟨job, held, rfl⟩ := Option.map_eq_some_iff.mp stored
  exact all job (List.mem_of_find?_eq_some held) id (find?_id held)

end History

namespace Unreliable

variable {σ α : Type}

theorem perform_failing {call : StoreCall} {run : σ → StoreAnswer σ α} {store : Unreliable σ}
    (fails : store.fails store.calls call = true) :
    perform call run store = (.error call.failure, { store with calls := store.calls + 1 }) := by
  rw [perform, fails]
  rfl

theorem perform_answering {call : StoreCall} {run : σ → StoreAnswer σ α} {store : Unreliable σ}
    (answers : store.fails store.calls call = false) :
    perform call run store =
      ((run store.inner).1,
        { store with calls := store.calls + 1, inner := (run store.inner).2 }) := by
  rw [perform, answers]
  rfl

theorem perform_spec (call : StoreCall) (run : σ → StoreAnswer σ α) (store : Unreliable σ) :
    (∃ error, (perform call run store).1 = .error error ∧
      (perform call run store).2.inner = store.inner) ∨
    (perform call run store).1 = (run store.inner).1 ∧
      (perform call run store).2.inner = (run store.inner).2 := by
  unfold perform
  dsimp only
  split
  · exact .inl ⟨_, rfl, rfl⟩
  · exact .inr ⟨rfl, rfl⟩

theorem perform_inner {β : Type} (view : σ → β) {call : StoreCall} {run : σ → StoreAnswer σ α}
    {store : Unreliable σ} (same : view (run store.inner).2 = view store.inner) :
    view (perform call run store).2.inner = view store.inner := by
  rcases perform_spec call run store with ⟨_, _, inner⟩ | ⟨_, inner⟩
  · rw [inner]
  · rw [inner, same]

instance [JobStore σ] [Kinds σ] : Kinds (Unreliable σ) where
  kind? id store := Kinds.kind? id store.inner
  get_kind {id store job} answer := by
    rcases perform_spec .get (JobStore.get id) store with ⟨error, failed, _⟩ | ⟨answered, _⟩
    · cases (show (perform .get (JobStore.get id) store).1 = .ok job from answer).symm.trans failed
    · exact Kinds.get_kind (answered.symm.trans answer)
  kind_get id other store := perform_inner (Kinds.kind? other) (Kinds.kind_get id other store.inner)
  kind_update job other store :=
    perform_inner (Kinds.kind? other) (Kinds.kind_update job other store.inner)
  kind_running other store :=
    perform_inner (Kinds.kind? other) (Kinds.kind_running other store.inner)

end Unreliable

end TicketReports
