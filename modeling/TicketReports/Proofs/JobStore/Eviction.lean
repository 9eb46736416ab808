import TicketReports.Proofs.JobStore.Steady

set_option autoImplicit false

namespace TicketReports

def Job.origin (job : Job) : Option JobId × JobKind × Timestamp := (job.id, job.kind, job.createdAt)

namespace History

inductive Call where
  | add (fresh : JobId) (job : Job)
  | update (job : Job)

namespace Call

def run (call : Call) (history : History) : History :=
  match call with
  | .add fresh job => (JobStore.add fresh job history).2
  | .update job => (JobStore.update job history).2

def added? : Call → Option Job
  | .add fresh job => (job.assignId fresh).toOption
  | .update _ => none

def added (calls : List Call) : List Job := calls.filterMap added?

theorem added_append (first later : List Call) :
    added (first ++ later) = added first ++ added later :=
  List.filterMap_append

theorem added_named (calls : List Call) : ∀ job ∈ added calls, job.id ≠ none := by
  intro job member
  obtain ⟨call, -, stored⟩ := List.mem_filterMap.mp member
  cases call with
  | add fresh new =>
    rw [added?, Job.assignId] at stored
    split at stored
    next => cases stored
    next =>
      cases stored
      simp
  | update new => cases stored

end Call

def serve (history : History) (calls : List Call) : History :=
  calls.foldl (fun history call => call.run history) history

/-- As many of the oldest finished jobs are gone as there were jobs too many. -/
structure Trimmed (capacity : Nat) (before after : List Job) : Prop where
  order : after.Sublist before
  running : after.filter Job.isRunning = before.filter Job.isRunning
  finished : (after.filter fun job => !job.isRunning) =
    (before.filter fun job => !job.isRunning).drop (before.length - capacity)

theorem filter_running_dropFinished (excess : Nat) (jobs : List Job) :
    (dropFinished excess jobs).filter Job.isRunning = jobs.filter Job.isRunning := by
  induction jobs generalizing excess with
  | nil => cases excess <;> rfl
  | cons job rest ih =>
    cases excess with
    | zero => rfl
    | succ excess => by_cases running : job.isRunning = true <;> simp [dropFinished, running, ih]

theorem filter_finished_dropFinished (excess : Nat) (jobs : List Job) :
    ((dropFinished excess jobs).filter fun job => !job.isRunning) =
      (jobs.filter fun job => !job.isRunning).drop excess := by
  induction jobs generalizing excess with
  | nil => cases excess <;> simp [dropFinished]
  | cons job rest ih =>
    cases excess with
    | zero => rfl
    | succ excess => by_cases running : job.isRunning = true <;> simp [dropFinished, running, ih]

theorem trimmed_dropFinished (capacity : Nat) (jobs : List Job) :
    Trimmed capacity jobs (dropFinished (jobs.length - capacity) jobs) :=
  ⟨dropFinished_sublist _ _, filter_running_dropFinished _ _, filter_finished_dropFinished _ _⟩

theorem length_by_outcome (jobs : List Job) :
    jobs.length =
      (jobs.filter Job.isRunning).length + (jobs.filter fun job => !job.isRunning).length := by
  have split := (List.filter_append_perm Job.isRunning jobs).length_eq
  rw [List.length_append] at split
  exact split.symm

theorem Trimmed.bounded {capacity : Nat} {before after : List Job}
    (trimmed : Trimmed capacity before after) :
    after.length ≤ capacity ∨ ∀ job ∈ after, job.isRunning = true := by
  have lengths := length_by_outcome after
  rw [trimmed.running, trimmed.finished, List.length_drop] at lengths
  have all := length_by_outcome before
  by_cases enough : before.length - capacity ≤ (before.filter fun job => !job.isRunning).length
  next => exact .inl (by omega)
  next =>
    -- There were fewer finished jobs than jobs too many, so that none of them stays.
    have none : (after.filter fun job => !job.isRunning) = [] := by
      rw [trimmed.finished]
      exact List.drop_eq_nil_of_le (by omega)
    refine .inr fun job member => ?_
    have spared := List.filter_eq_nil_iff.mp none job member
    simpa using spared

theorem mergeFirst_origins (id : JobId) (job : Job) (jobs : List Job) :
    (mergeFirst id job jobs).map Job.origin = jobs.map Job.origin := by
  induction jobs with
  | nil => rfl
  | cons stored rest ih =>
    by_cases here : stored.id = some id <;> simp [mergeFirst, here, ih, Job.origin, merge]

theorem mergeFirst_of_not_mem {id : JobId} {jobs : List Job} (absent : some id ∉ jobs.map Job.id)
    (job : Job) :
    (jobs.map fun stored => if stored.id = some id then merge stored job else stored) = jobs := by
  induction jobs with
  | nil => rfl
  | cons stored rest ih =>
    simp only [List.map_cons, List.mem_cons, not_or] at absent
    simp [ih absent.2, Ne.symm absent.1]

theorem mergeFirst_eq_map {jobs : List Job} (distinct : (jobs.map Job.id).Nodup) (id : JobId)
    (job : Job) :
    mergeFirst id job jobs =
      jobs.map fun stored => if stored.id = some id then merge stored job else stored := by
  induction jobs with
  | nil => rfl
  | cons stored rest ih =>
    rw [List.map_cons, List.nodup_cons] at distinct
    by_cases here : stored.id = some id
    next =>
      have absent : some id ∉ rest.map Job.id := here ▸ distinct.1
      simp [mergeFirst, here, mergeFirst_of_not_mem absent]
    next => simp [mergeFirst, here, ih distinct.2]

theorem add_new (fresh : JobId) {job : Job} (unnamed : job.id = none) (history : History) :
    JobStore.add fresh job history = (.ok fresh, history.push { job with id := some fresh }) := by
  change History.add fresh job history = _
  simp [History.add, Job.assignId, unnamed]

theorem add_named (fresh : JobId) {job : Job} {existing : JobId} (named : job.id = some existing)
    (history : History) : ∃ error, JobStore.add fresh job history = (.error error, history) := by
  refine ⟨.domain (.invariant ("job id already assigned (" ++ existing.text ++ ")")), ?_⟩
  change History.add fresh job history = _
  simp [History.add, Job.assignId, named]

theorem update_stored {history : History} (distinct : (history.jobs.map Job.id).Nodup) {job : Job}
    {id : JobId} (named : job.id = some id) (stored : some id ∈ history.jobs.map Job.id) :
    JobStore.update job history = (.ok (), { history with
      jobs := history.jobs.map fun stored =>
        if stored.id = some id then { stored with progress := job.progress, outcome := job.outcome }
        else stored }) := by
  change History.update job history = _
  cases found : history.find? id with
  | none => exact absurd stored (find?_eq_none_iff.mp found)
  | some _ =>
    simp only [History.update, named, found, mergeFirst_eq_map distinct]
    rfl

theorem update_unstored {history : History} {job : Job}
    (unstored : ∀ id, job.id = some id → some id ∉ history.jobs.map Job.id) :
    ∃ error, JobStore.update job history = (.error error, history) := by
  change ∃ error, History.update job history = (.error error, history)
  unfold History.update
  split
  next => exact ⟨_, rfl⟩
  next id named =>
    rw [find?_eq_none_iff.mpr (unstored id named)]
    exact ⟨_, rfl⟩

/-- What any calls keep: the jobs are some of those that were added, in that order. -/
structure Ordered (capacity : Nat) (history : History) (added : List Job) : Prop where
  capacity : history.capacity = max capacity 1
  origins : (history.jobs.map Job.origin).Sublist (added.map Job.origin)

namespace Ordered

variable {capacity : Nat} {history : History} {added : List Job}

theorem ids_sublist (ordered : Ordered capacity history added) :
    (history.jobs.map Job.id).Sublist (added.map Job.id) := by
  have among := ordered.origins.map Prod.fst
  rwa [List.map_map, List.map_map] at among

theorem ids (ordered : Ordered capacity history added) (fresh : (added.map Job.id).Nodup) :
    (history.jobs.map Job.id).Nodup :=
  fresh.sublist ordered.ids_sublist

theorem named (ordered : Ordered capacity history added) (all : ∀ job ∈ added, job.id ≠ none) :
    ∀ job ∈ history.jobs, job.id ≠ none := by
  intro job member
  obtain ⟨origin, among, same⟩ :=
    List.mem_map.mp (ordered.ids_sublist.subset (List.mem_map_of_mem member))
  exact same ▸ all origin among

theorem run (ordered : Ordered capacity history added) (call : Call) :
    Ordered capacity (call.run history) (added ++ Call.added [call]) := by
  cases call with
  | add fresh job =>
    cases named : job.id with
    | none =>
      have stored : Call.added [.add fresh job] = [{ job with id := some fresh }] := by
        simp [Call.added, Call.added?, Job.assignId, named, Except.toOption]
      rw [Call.run, add_new fresh named, stored]
      refine ⟨ordered.capacity, ?_⟩
      have grown := ordered.origins.append_right [({ job with id := some fresh } : Job).origin]
      have fewer := (dropFinished_sublist (history.jobs.length + 1 - history.capacity)
        (history.jobs ++ [{ job with id := some fresh }])).map Job.origin
      rw [List.map_append] at fewer ⊢
      simpa [push] using fewer.trans grown
    | some existing =>
      have nothing : Call.added [.add fresh job] = [] := by
        simp [Call.added, Call.added?, Job.assignId, named, Except.toOption]
      obtain ⟨error, refused⟩ := add_named fresh named history
      rw [Call.run, refused, nothing, List.append_nil]
      exact ordered
  | update job =>
    have nothing : Call.added [.update job] = [] := rfl
    rw [Call.run, nothing, List.append_nil]
    change Ordered capacity (History.update job history).2 added
    unfold History.update
    repeat' split
    · exact ordered
    · exact ordered
    · exact ⟨ordered.capacity, by rw [mergeFirst_origins]; exact ordered.origins⟩

theorem serve (ordered : Ordered capacity history added) (calls : List Call) :
    Ordered capacity (history.serve calls) (added ++ Call.added calls) := by
  induction calls generalizing history added with
  | nil => simpa [History.serve, Call.added] using ordered
  | cons call calls ih =>
    have next := ih (ordered.run call)
    rwa [List.append_assoc, ← Call.added_append] at next

theorem reached (capacity : Nat) (calls : List Call) :
    Ordered capacity ((withCapacity capacity).serve calls) (Call.added calls) := by
  have new : Ordered capacity (withCapacity capacity) [] := ⟨rfl, List.Sublist.refl _⟩
  exact new.serve calls

end Ordered

theorem run_keeps_running (call : Call) {history : History} {job : Job}
    (member : job ∈ history.jobs) (running : job.isRunning = true) :
    job.id ∈ (call.run history).jobs.map Job.id := by
  cases call with
  | update next =>
    change job.id ∈ (History.update next history).2.jobs.map Job.id
    rw [update_ids]
    exact List.mem_map_of_mem member
  | add fresh next =>
    cases named : next.id with
    | none =>
      rw [Call.run, add_new fresh named]
      exact List.mem_map_of_mem (mem_dropFinished _ (List.mem_append_left _ member) running)
    | some existing =>
      obtain ⟨error, refused⟩ := add_named fresh named history
      rw [Call.run, refused]
      exact List.mem_map_of_mem member

/-- Adding a job costs a history the oldest finished ones, and no more of them than the capacity
asks for. -/
theorem accepted_jobs_push_out_finished (capacity : Nat) (calls : List Call)
    (fresh : ((Call.added calls).map Job.id).Nodup) :
    let history := (withCapacity capacity).serve calls
    history.capacity = max capacity 1 ∧ (history.jobs.map Job.id).Nodup ∧
      (history.jobs.map Job.origin).Sublist ((Call.added calls).map Job.origin) ∧
      (∀ call : Call, ∀ job ∈ history.jobs, job.isRunning = true →
        job.id ∈ (call.run history).jobs.map Job.id) ∧
      (∀ id job,
        (job.id = none ∧ ∃ after, JobStore.add id job history = (.ok id, after) ∧
          Trimmed (max capacity 1) (history.jobs ++ [{ job with id := some id }]) after.jobs ∧
          (after.jobs.length ≤ max capacity 1 ∨ ∀ kept ∈ after.jobs, kept.isRunning = true)) ∨
        job.id ≠ none ∧ ∃ error, JobStore.add id job history = (.error error, history)) ∧
      (∀ job,
        (∃ id, job.id = some id ∧ JobStore.update job history = (.ok (), { history with
          jobs := history.jobs.map fun stored =>
            if stored.id = some id then
              { stored with progress := job.progress, outcome := job.outcome }
            else stored })) ∨
        (∀ id, job.id = some id → some id ∉ history.jobs.map Job.id) ∧
          ∃ error, JobStore.update job history = (.error error, history)) := by
  intro history
  have ordered : Ordered capacity history (Call.added calls) := Ordered.reached capacity calls
  have distinct := ordered.ids fresh
  refine ⟨ordered.capacity, distinct, ordered.origins,
    fun call job member running => run_keeps_running call member running, fun id job => ?_,
    fun job => ?_⟩
  · cases named : job.id with
    | none =>
      have trimmed := trimmed_dropFinished history.capacity
        (history.jobs ++ [{ job with id := some id }])
      rw [ordered.capacity] at trimmed
      refine .inl ⟨rfl, _, add_new id named history, ?_⟩
      rw [push, ordered.capacity]
      exact ⟨trimmed, trimmed.bounded⟩
    | some existing => exact .inr ⟨by simp, add_named id named history⟩
  · by_cases stored : ∃ id, job.id = some id ∧ some id ∈ history.jobs.map Job.id
    · obtain ⟨id, named, member⟩ := stored
      exact .inl ⟨id, named, update_stored distinct named member⟩
    · have absent : ∀ id, job.id = some id → some id ∉ history.jobs.map Job.id :=
        fun id named member => stored ⟨id, named, member⟩
      exact .inr ⟨absent, update_unstored absent⟩

section Crowded

def named (number : Nat) (outcome : Option FinalStatus) : Job :=
  { Job.new .all ⟨number, 0⟩ with id := some ⟨number⟩, outcome }

def crowding : List Call :=
  [.add ⟨1⟩ (.new .all ⟨1, 0⟩), .add ⟨2⟩ (.new .all ⟨2, 0⟩), .update (named 1 (some .success))]

theorem accepted_job_pushes_out_first :
    ((Call.added crowding).map Job.id).Nodup ∧ ∃ after,
      JobStore.add ⟨3⟩ (.new .all ⟨3, 0⟩) ((withCapacity 0).serve crowding) = (.ok ⟨3⟩, after) ∧
        Trimmed 1 [named 1 (some .success), named 2 none, named 3 none] after.jobs ∧
        (after.jobs.length ≤ 1 ∨ ∀ kept ∈ after.jobs, kept.isRunning = true) := by
  have fresh : ((Call.added crowding).map Job.id).Nodup := by decide
  obtain ⟨-, -, -, -, adds, -⟩ := accepted_jobs_push_out_finished 0 crowding fresh
  rcases adds ⟨3⟩ (.new .all ⟨3, 0⟩) with ⟨-, after, added, trimmed, bounded⟩ | ⟨identified, -⟩
  · exact ⟨fresh, after, added, trimmed, bounded⟩
  · exact absurd rfl identified

/-- A job that has an id already is not added, and then nobody leaves a history that has outgrown
its capacity. -/
theorem refused_job_pushes_out_nobody :
    let history := (withCapacity 1).serve (crowding ++ [.add ⟨3⟩ (named 2 none)])
    ((Call.added (crowding ++ [.add ⟨3⟩ (named 2 none)])).map Job.id).Nodup ∧
      ¬(history.jobs.length ≤ 1 ∨ ∀ job ∈ history.jobs, job.isRunning = true) := by
  decide

end Crowded

end History

end TicketReports
