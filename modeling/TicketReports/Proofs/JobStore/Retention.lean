import TicketReports.Proofs.JobStore.Eviction

set_option autoImplicit false

namespace TicketReports

namespace History

theorem dropFinished_concat (excess : Nat) (jobs : List Job) (job : Job) :
    dropFinished excess (jobs ++ [job]) =
      dropFinished excess jobs ++
        if job.isRunning = true ∨ excess ≤ (jobs.filter fun job => !job.isRunning).length then [job]
        else [] := by
  induction jobs generalizing excess with
  | nil =>
    cases excess with
    | zero => simp [dropFinished]
    | succ excess =>
      by_cases running : job.isRunning = true
      · simp [dropFinished, running]
      · cases excess <;> simp [dropFinished, running]
  | cons head rest ih =>
    cases excess with
    | zero => simp [dropFinished]
    | succ excess => by_cases running : head.isRunning = true <;> simp [dropFinished, running, ih]

theorem dropFinished_exhausted {excess : Nat} {jobs : List Job}
    (few : (jobs.filter fun job => !job.isRunning).length ≤ excess) :
    dropFinished excess jobs = jobs.filter Job.isRunning := by
  have none : ((dropFinished excess jobs).filter fun job => !job.isRunning) = [] := by
    rw [filter_finished_dropFinished, List.drop_eq_nil_of_le few]
  rw [← filter_running_dropFinished excess jobs, eq_comm, List.filter_eq_self]
  intro job member
  simpa using List.filter_eq_nil_iff.mp none job member

section Push

variable {history : History} (job : Job)

/-- Whether a history has a place for one more finished job. -/
def HasPlace (history : History) : Prop :=
  (history.jobs.filter Job.isRunning).length < history.capacity

theorem push_kept (place : job.isRunning = true ∨ history.HasPlace) :
    ∃ older, (history.push job).jobs = older ++ [job] := by
  refine ⟨_, (dropFinished_concat _ history.jobs job).trans (congrArg _ (if_pos ?_))⟩
  refine place.imp_right fun fewer => ?_
  have lengths := length_by_outcome history.jobs
  rw [HasPlace] at fewer
  simp
  omega

theorem push_dropped (finished : job.isRunning = false) (full : ¬ history.HasPlace) :
    (history.push job).jobs = history.jobs.filter Job.isRunning := by
  have lengths := length_by_outcome history.jobs
  rw [HasPlace] at full
  -- The new job is the last finished one, and there are as many jobs too many as finished ones.
  refine (dropFinished_exhausted ?_).trans ?_
  · simp [finished]
    omega
  · simp [finished]

end Push

/-- An accepted job is found, and is the last one, exactly if it is running or the running jobs
before it leave a place. -/
theorem accepted_job_is_found_iff_place (capacity : Nat) (calls : List Call) (id : JobId)
    (job : Job) (unsaved : job.id = none)
    (fresh : ((Call.added (calls ++ [.add id job])).map Job.id).Nodup) :
    let history := (withCapacity capacity).serve calls
    let stored := { job with id := some id }
    ∃ after : History, JobStore.add id job history = (.ok id, after) ∧
      ((job.isRunning = true ∨ history.HasPlace) ∧ JobStore.get id after = (.ok stored, after) ∧
          JobStore.last after = (.ok stored, after) ∨
        (job.isRunning = false ∧ ¬ history.HasPlace) ∧
          JobStore.get id after = (.error (.notFound id), after) ∧
          after.jobs = history.jobs.filter Job.isRunning) := by
  intro history stored
  have ordered : Ordered capacity history (Call.added calls) := Ordered.reached capacity calls
  have added : Call.added [.add id job] = [stored] := by
    simp [Call.added, Call.added?, Job.assignId, unsaved, Except.toOption, stored]
  rw [Call.added_append, added, List.map_append, List.nodup_append] at fresh
  have distinct := ordered.ids fresh.1
  have new : some id ∉ history.jobs.map Job.id := fun member =>
    fresh.2.2 _ (ordered.ids_sublist.subset member) (some id) (by simp [stored]) rfl
  have named : stored.id = some id := rfl
  refine ⟨_, add_new id unsaved history, ?_⟩
  by_cases place : job.isRunning = true ∨ history.HasPlace
  · obtain ⟨older, kept⟩ := push_kept stored place
    have found : (history.push stored).find? id = some stored := by
      rw [find?_eq_some_iff (push_ids_nodup distinct new named), kept]
      exact ⟨by simp, named⟩
    refine .inl ⟨place, ?_, ?_⟩
    · change History.get id (history.push stored) = _
      rw [History.get, found]
    · change History.last (history.push stored) = _
      rw [History.last, kept, List.getLast?_concat]
  · rw [not_or, Bool.not_eq_true] at place
    have left := push_dropped stored place.1 place.2
    have absent : (history.push stored).find? id = none := by
      rw [find?_eq_none_iff, left]
      exact fun member => new ((List.filter_sublist.map Job.id).subset member)
    refine .inr ⟨place, ?_, left⟩
    change History.get id (history.push stored) = _
    rw [History.get, absent]

section Full

def occupied : List Call := [.add ⟨1⟩ (.new .all ⟨1, 0⟩)]

def ended : Job := { Job.new .serviceDesk ⟨2, 0⟩ with outcome := some .success }

theorem running_job_is_found_when_full :
    (Job.new .all ⟨2, 0⟩).id = none ∧
      ((Call.added (occupied ++ [.add ⟨2⟩ (.new .all ⟨2, 0⟩)])).map Job.id).Nodup ∧
      ∃ after, JobStore.add ⟨2⟩ (.new .all ⟨2, 0⟩) ((withCapacity 1).serve occupied) =
          (.ok ⟨2⟩, after) ∧
        JobStore.get ⟨2⟩ after = (.ok (named 2 none), after) ∧
        JobStore.last after = (.ok (named 2 none), after) := by
  have fresh : ((Call.added (occupied ++ [.add ⟨2⟩ (.new .all ⟨2, 0⟩)])).map Job.id).Nodup := by
    decide
  obtain ⟨after, accepted, ⟨-, found, last⟩ | ⟨⟨finished, -⟩, -⟩⟩ :=
    accepted_job_is_found_iff_place 1 occupied ⟨2⟩ (.new .all ⟨2, 0⟩) rfl fresh
  · exact ⟨rfl, fresh, after, accepted, found, last⟩
  · cases finished

/-- The id of a finished job is handed out though the job is gone, and the last job is another. -/
theorem finished_job_is_lost_when_full : ∃ after,
    JobStore.add ⟨2⟩ ended ((withCapacity 1).serve occupied) = (.ok ⟨2⟩, after) ∧
      JobStore.get ⟨2⟩ after = (.error (.notFound ⟨2⟩), after) ∧
      JobStore.last after = (.ok (named 1 none), after) :=
  ⟨_, rfl, rfl, rfl⟩

end Full

end History

end TicketReports
