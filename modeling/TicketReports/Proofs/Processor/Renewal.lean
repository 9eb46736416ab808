import TicketReports.Proofs.Processor.Recording

set_option autoImplicit false

namespace TicketReports

def Event.works (count : Nat) (now : Timestamp) : List Event :=
  List.replicate count (.work false now)

namespace Processor

variable {σ W : Type} [JobStore σ] [Stages W] {p : Processor σ W} {now : Timestamp}

theorem steps_append (p : Processor σ W) (events later : List Event) :
    (p.steps (events ++ later)).1 = ((p.steps events).1.steps later).1 := by
  induction events generalizing p with
  | nil => rfl
  | cons event events ih => exact ih (p.step event).1

theorem works_succ (p : Processor σ W) (count : Nat) (now : Timestamp) :
    (p.steps (Event.works (count + 1) now)).1 =
      ((p.work false now).1.steps (Event.works count now)).1 := rfl

theorem rests (listening : p.worker = .listening) (empty : p.mailbox = none) (count : Nat) :
    (p.steps (Event.works count now)).1 = p := by
  induction count with
  | zero => rfl
  | succ count ih =>
    have still : (p.work false now).1 = p := by
      rw [work, listening]
      dsimp only [listen]
      rw [empty]
      rfl
    rw [works_succ, still, ih]

section Closing

variable (free : p.free = true) (going : p.stopping = false) (empty : p.mailbox = none)
include free going empty

theorem reopens {id : JobId} (finished : p.worker = .finished id) (count : Nat) :
    (p.steps (Event.works (count + 2) now)).1 = { p with ready := true, worker := .listening } := by
  have first : (p.work false now).1 = { p with worker := .reopening id } := by
    rw [work, finished]
    dsimp only
    rw [going]
    rfl
  have second : (Processor.work false now { p with worker := .reopening id }).1 =
      { p with ready := true, worker := .listening } := by
    rw [work, setReady]
    exact if_pos free
  rw [works_succ, first, works_succ, second]
  exact rests (p := { p with ready := true, worker := .listening }) rfl empty count

variable {run : Run} (running : p.worker = .running run) (closing : run.closing = true)
include running closing

theorem retires (spent : run.todo = []) (count : Nat) :
    (p.steps (Event.works (count + 3) now)).1 = { p with ready := true, worker := .listening } := by
  have first : (p.work false now).1 = { p with worker := .finished run.id } := by
    rw [work, running]
    dsimp only [advance]
    rw [spent]
    dsimp only
    rw [if_pos closing]
  rw [works_succ, first]
  exact reopens (p := { p with worker := .finished run.id }) free going empty rfl count

theorem saves {job : Job} (todo : run.todo = [.save job]) (count : Nat) :
    (p.steps (Event.works (count + 4) now)).1 =
      { p with store := (JobStore.update job p.store).2, ready := true, worker := .listening } := by
  let saved : Processor σ W :=
    { p with
      store := (JobStore.update job p.store).2
      worker := .running { run with todo := [] } }
  have first : (p.work false now).1 = saved := by
    rw [work, running]
    dsimp only [advance]
    rw [todo]
  rw [works_succ, first]
  exact retires (p := saved) free going empty rfl closing rfl count

theorem records {change : Job.Change} (todo : run.todo = [.record change]) {job next : Job}
    {store : σ} (found : JobStore.get run.id p.store = (.ok job, store))
    (applied : job.apply now change = .ok next) (count : Nat) :
    (p.steps (Event.works (count + 5) now)).1 =
      { p with store := (JobStore.update next store).2, ready := true, worker := .listening } := by
  let loaded : Processor σ W :=
    { p with store, worker := .running { run with todo := [.save next] } }
  have first : (p.work false now).1 = loaded := by
    rw [work, running]
    dsimp only [advance]
    rw [todo]
    dsimp only
    rw [found]
    dsimp only
    rw [applied]
  rw [works_succ, first]
  exact saves (p := loaded) free going empty rfl closing rfl count

end Closing

theorem accepts (free : p.free = true) (going : p.stopping = false) (empty : p.mailbox = none)
    (ready : p.ready = true) (listening : p.worker = .listening) {id : JobId} {job : Job}
    (found : (JobStore.get id p.store).1 = .ok job) :
    (p.steps ([.enter id, .leave] ++ Event.works 2 now)).1.worker =
      .running (Run.begin id (p.runs + 1) p.timeLimit job.kind) := by
  let sent : Processor σ W := { p with mailbox := some id, caller := some id }
  have first : (p.enter id).1 = sent := by
    simp [enter, free, ready, empty, listening, Worker.receives, sent]
  let left : Processor σ W := { sent with ready := false, caller := none }
  have second : sent.leave.1 = left := rfl
  let taken : Processor σ W := { left with mailbox := none, worker := .looking id }
  have third : (left.work false now).1 = taken := by
    rw [work, listening]
    rfl
  have both : (p.steps ([.enter id, .leave] ++ Event.works 2 now)).1 = (taken.lookUp id).1 := by
    change ((((p.enter id).1.leave).1.work false now).1.work false now).1 = _
    rw [first, second, third]
    rfl
  rw [both]
  simp [lookUp, taken, left, sent, found, going]

variable [Steady σ]

open Steady

theorem closes (free : p.free = true) (going : p.stopping = false) (empty : p.mailbox = none)
    {run : Run} {status : FinalStatus} (running : p.worker = .running run)
    (owes : run.Owes (peek run.id p.store) (some status)) (now : Timestamp) : ∃ store,
      (p.steps (Event.works 5 now)).1 = { p with store, ready := true, worker := .listening } ∧
        ∀ other, other ≠ run.id → peek other store = peek other p.store := by
  cases owes with
  | told _ closing spent _ =>
    exact ⟨p.store, retires free going empty running closing spent 2, fun _ _ => rfl⟩
  | saving job _ held _ closing todo =>
    have holds : job.id = some run.id := peek_id held
    exact ⟨_, saves free going empty running closing todo 1,
      fun other different => peek_update_of_ne holds different⟩
  | verdict job _ held unfinished closing todo =>
    let spent : Job := { job with outcome := some status }
    have holds : spent.id = some run.id := (peek_id held : job.id = some run.id)
    have found : JobStore.get run.id p.store = (.ok job, (JobStore.get run.id p.store).2) :=
      Prod.ext (get_found held) rfl
    exact ⟨_, records free going empty running closing todo found
      (Job.finish_running unfinished status) 0, fun other different =>
        (peek_update_of_ne holds different).trans (peek_get run.id other p.store)⟩

theorem renews {notes : List Note} (admission : Admission p notes) {run : Run}
    {status : FinalStatus} (running : p.worker = .running run)
    (owes : run.Owes (peek run.id p.store) (some status)) (going : p.stopping = false) {id : JobId}
    {job : Job} (different : id ≠ run.id) (held : peek id p.store = some job) (now : Timestamp) :
    (p.steps (.leave :: Event.works 5 now ++ ([.enter id, .leave] ++ Event.works 2 now))).1.worker =
      .running (Run.begin id (p.runs + 1) p.timeLimit job.kind) := by
  have empty := admission.empty (by rw [running]; rfl)
  obtain ⟨ready, left⟩ := p.leave_frees
  let freed : Processor σ W := { p with ready, caller := none }
  obtain ⟨store, closed, others⟩ := closes (p := freed) rfl going empty running owes now
  have found : (JobStore.get id store).1 = .ok job := get_found ((others id different).trans held)
  rw [steps_append]
  have opened : (p.steps (.leave :: Event.works 5 now)).1 =
      { freed with store, ready := true, worker := .listening } := by
    change (p.leave.1.steps (Event.works 5 now)).1 = _
    rw [left]
    exact closed
  rw [opened]
  exact accepts (p := { freed with store, ready := true, worker := .listening }) rfl going empty rfl
    rfl found

end Processor

end TicketReports
