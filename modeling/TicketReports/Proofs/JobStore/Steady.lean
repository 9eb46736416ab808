import Mathlib.Data.List.Nodup
import TicketReports.JobStore.History

set_option autoImplicit false

namespace TicketReports

/-- A store that finds what it holds and changes nothing but the job that is updated. -/
class Steady (σ : Type) [JobStore σ] where
  peek : JobId → σ → Option Job
  peek_id {id : JobId} {store : σ} {job : Job} : peek id store = some job → job.id = some id
  get_found {id : JobId} {store : σ} {job : Job} :
    peek id store = some job → (JobStore.get id store).1 = .ok job
  peek_get (id other : JobId) (store : σ) : peek other (JobStore.get id store).2 = peek other store
  update_found {id : JobId} {store : σ} {stored job : Job} :
    job.id = some id → peek id store = some stored → (JobStore.update job store).1 = .ok ()
  peek_update {id : JobId} {store : σ} {job : Job} : job.id = some id →
    peek id (JobStore.update job store).2 =
      (peek id store).map fun stored => History.merge stored job
  peek_update_of_ne {id other : JobId} {store : σ} {job : Job} : job.id = some id → other ≠ id →
    peek other (JobStore.update job store).2 = peek other store

namespace Job

/-- What may become of a stored job that nobody writes to: it stays, or leaves once finished. -/
def Kept (before after : Option Job) : Prop :=
  after = before ∨ after = none ∧ ∃ job, before = some job ∧ job.isRunning = false

theorem Kept.refl (stored : Option Job) : Kept stored stored := .inl rfl

theorem Kept.running {before after : Option Job} {job : Job} (kept : Kept before after)
    (stored : before = some job) (running : job.isRunning = true) : after = some job := by
  rcases kept with same | ⟨_, finished, held, spent⟩
  · rw [same, stored]
  · rw [stored, Option.some.injEq] at held
    subst held
    rw [running] at spent
    cases spent

theorem Kept.eq {before after : Option Job} {job : Job} (kept : Kept before after)
    (stored : after = some job) : before = some job := by
  rcases kept with same | ⟨gone, _⟩
  · rw [← same, stored]
  · rw [stored] at gone
    cases gone

end Job

namespace History

theorem merge_id (stored job : Job) : (merge stored job).id = stored.id := rfl

theorem dropFinished_sublist (excess : Nat) (jobs : List Job) :
    (dropFinished excess jobs).Sublist jobs := by
  induction jobs generalizing excess with
  | nil => cases excess <;> exact List.Sublist.refl _
  | cons job rest ih =>
    cases excess with
    | zero => exact List.Sublist.refl _
    | succ excess =>
      unfold dropFinished
      split
      · exact (ih (excess + 1)).cons_cons job
      · exact (ih excess).cons job

theorem mem_dropFinished (excess : Nat) {jobs : List Job} {job : Job} (member : job ∈ jobs)
    (running : job.isRunning = true) : job ∈ dropFinished excess jobs := by
  induction jobs generalizing excess with
  | nil => cases member
  | cons head rest ih =>
    cases excess with
    | zero => exact member
    | succ excess =>
      unfold dropFinished
      rcases List.mem_cons.mp member with rfl | later
      · rw [if_pos running]
        exact List.mem_cons_self
      · split
        · exact List.mem_cons_of_mem head (ih (excess + 1) later)
        · exact ih excess later

theorem find?_id {history : History} {id : JobId} {job : Job}
    (found : history.find? id = some job) : job.id = some id := by
  have holds := List.find?_some found
  exact beq_iff_eq.mp holds

theorem find?_eq_some_iff {history : History} (distinct : (history.jobs.map Job.id).Nodup)
    (id : JobId) (job : Job) :
    history.find? id = some job ↔ job ∈ history.jobs ∧ job.id = some id := by
  constructor
  · intro found
    exact ⟨List.mem_of_find?_eq_some found, find?_id found⟩
  · rintro ⟨member, holds⟩
    cases found : history.find? id with
    | none => exact absurd holds (by simpa using List.find?_eq_none.mp found job member)
    | some other =>
      have same : other.id = job.id := (find?_id found).trans holds.symm
      rw [List.inj_on_of_nodup_map distinct (List.mem_of_find?_eq_some found) member same]

theorem find?_eq_none_iff {history : History} {id : JobId} :
    history.find? id = none ↔ some id ∉ history.jobs.map Job.id := by
  rw [find?, List.find?_eq_none, List.mem_map]
  simp

section Push

variable {history : History} {fresh : JobId} {job : Job}
  (distinct : (history.jobs.map Job.id).Nodup) (new : some fresh ∉ history.jobs.map Job.id)
  (holds : job.id = some fresh)
include distinct new holds

theorem push_ids_nodup : ((history.push job).jobs.map Job.id).Nodup := by
  have all : ((history.jobs ++ [job]).map Job.id).Nodup := by
    rw [List.map_append, List.map_singleton, holds, List.nodup_append]
    refine ⟨distinct, List.nodup_singleton _, fun id member other single same => ?_⟩
    rw [List.mem_singleton] at single
    exact new (single ▸ same ▸ member)
  exact all.sublist ((dropFinished_sublist _ _).map Job.id)

theorem find?_push (running : job.isRunning = true) :
    (history.push job).find? fresh = some job := by
  rw [find?_eq_some_iff (push_ids_nodup distinct new holds)]
  exact ⟨mem_dropFinished _ (List.mem_append_right _ (List.mem_singleton_self job)) running, holds⟩

theorem kept_push (other : JobId) (different : other ≠ fresh) :
    Job.Kept (history.find? other) ((history.push job).find? other) := by
  have distinct' := push_ids_nodup distinct new holds
  cases after : (history.push job).find? other with
  | some found =>
    obtain ⟨member, has⟩ := (find?_eq_some_iff distinct' other found).mp after
    refine .inl (Eq.symm ((find?_eq_some_iff distinct other found).mpr ⟨?_, has⟩))
    rcases List.mem_append.mp ((dropFinished_sublist _ _).subset member) with old | added
    · exact old
    · obtain rfl := List.mem_singleton.mp added
      exact absurd (Option.some.inj (has.symm.trans holds)) different
  | none =>
    cases before : history.find? other with
    | none => exact .inl rfl
    | some found =>
      refine .inr ⟨rfl, found, rfl, Bool.eq_false_iff.mpr fun running => ?_⟩
      obtain ⟨member, has⟩ := (find?_eq_some_iff distinct other found).mp before
      have stays : (history.push job).find? other = some found :=
        (find?_eq_some_iff distinct' other found).mpr
          ⟨mem_dropFinished _ (List.mem_append_left _ member) running, has⟩
      rw [after] at stays
      cases stays

end Push

theorem mergeFirst_ids (id : JobId) (job : Job) (jobs : List Job) :
    (mergeFirst id job jobs).map Job.id = jobs.map Job.id := by
  induction jobs with
  | nil => rfl
  | cons stored rest ih =>
    unfold mergeFirst
    split
    · rfl
    · rw [List.map_cons, List.map_cons, ih]

theorem find?_mergeFirst (id other : JobId) (job : Job) (jobs : List Job) :
    (mergeFirst id job jobs).find? (fun job => job.id == some other) =
      if other = id then
        (jobs.find? fun job => job.id == some other).map fun stored => merge stored job
      else jobs.find? fun job => job.id == some other := by
  induction jobs with
  | nil => simp [mergeFirst]
  | cons stored rest ih =>
    unfold mergeFirst
    by_cases here : stored.id = some id
    · by_cases same : other = id
      · simp [here, same, merge_id]
      · have different : id ≠ other := fun equal => same equal.symm
        simp [here, same, merge_id, different]
    · by_cases wanted : stored.id = some other
      · have different : other ≠ id := fun equal => here (equal ▸ wanted)
        simp [wanted, different]
      · rw [if_neg here, List.find?_cons_of_neg (by simpa using wanted),
          List.find?_cons_of_neg (by simpa using wanted), ih]

theorem update_ids (job : Job) (history : History) :
    (History.update job history).2.jobs.map Job.id = history.jobs.map Job.id := by
  unfold History.update
  repeat' split
  · rfl
  · rfl
  · exact mergeFirst_ids _ _ _

theorem find?_update {job : Job} {id : JobId} (holds : job.id = some id) (other : JobId)
    (history : History) :
    (History.update job history).2.find? other =
      if other = id then (history.find? id).map fun stored => merge stored job
      else history.find? other := by
  unfold History.update
  rw [holds]
  dsimp only
  cases found : history.find? id with
  | none =>
    by_cases same : other = id
    · rw [if_pos same, same, found]
      rfl
    · rw [if_neg same]
  | some stored =>
    refine (find?_mergeFirst id other job history.jobs).trans ?_
    by_cases same : other = id
    · subst same
      rw [if_pos rfl, if_pos rfl, ← found]
      rfl
    · rw [if_neg same, if_neg same]
      rfl

theorem get_eq (id : JobId) (history : History) : (JobStore.get id history).2 = history := by
  change (History.get id history).2 = history
  unfold History.get
  split <;> rfl

instance : Steady History where
  peek id history := history.find? id
  peek_id := find?_id
  get_found {id history job} found := by
    change (History.get id history).1 = .ok job
    rw [History.get, found]
  peek_get id other history := by rw [get_eq]
  update_found {id history stored job} holds found := by
    change (History.update job history).1 = .ok ()
    rw [History.update, holds]
    dsimp only
    rw [found]
  peek_update {id history job} holds := (find?_update holds id history).trans (if_pos rfl)
  peek_update_of_ne {id other history job} holds different :=
    (find?_update holds other history).trans (if_neg different)

end History

end TicketReports
