import Mathlib.Data.List.Infix
import TicketReports.JobStore.History
import TicketReports.Pipeline.Plan

set_option autoImplicit false

namespace TicketReports

namespace Timestamp

theorem le_refl (t : Timestamp) : t ≤ t := by
  change t.le t = true
  simp [le]

theorem le_trans {a b c : Timestamp} (first : a ≤ b) (second : b ≤ c) : a ≤ c := by
  change a.le b = true at first
  change b.le c = true at second
  change a.le c = true
  simp only [le, Bool.or_eq_true, Bool.and_eq_true, decide_eq_true_eq, beq_iff_eq] at *
  omega

end Timestamp

inductive Mark where
  | start (phase : Phase)
  | finish (phase : Phase)
  deriving DecidableEq, Repr

namespace Mark

def all : List Mark := Phase.all.flatMap fun phase => [.start phase, .finish phase]

theorem all_nodup : all.Nodup := by decide

theorem mem_all (mark : Mark) : mark ∈ all := by
  cases mark with
  | start phase => cases phase <;> decide
  | finish phase => cases phase <;> decide

theorem finish_ahead {phase : Phase} {ahead : List Mark} (suffix : .start phase :: ahead <:+ all) :
    .finish phase ∈ ahead := by
  have each : ∀ marks ∈ all.tails, ∀ phase, marks.head? = some (.start phase) →
      .finish phase ∈ marks.tail := by
    intro marks member phase
    revert marks
    cases phase <;> decide
  exact each _ ((List.mem_tails _ _).mpr suffix) phase rfl

theorem start_behind {phase : Phase} {ahead : List Mark}
    (suffix : .finish phase :: ahead <:+ all) : .start phase ∉ ahead := by
  have each : ∀ marks ∈ all.tails, ∀ phase, marks.head? = some (.finish phase) →
      .start phase ∉ marks.tail := by
    intro marks member phase
    revert marks
    cases phase <;> decide
  exact each _ ((List.mem_tails _ _).mpr suffix) phase rfl

end Mark

namespace Progress

def stamp (progress : Progress) : Mark → Option Timestamp
  | .start phase => (progress.get phase).started
  | .finish phase => (progress.get phase).finished

def Paired (progress : Progress) : Prop :=
  ∀ phase, (progress.get phase).finished.isSome = true → (progress.get phase).started.isSome = true

def Ordered (progress : Progress) : Prop :=
  (Mark.all.filterMap progress.stamp).Pairwise (· ≤ ·)

def InStep (progress : Progress) : Prop :=
  ∃ count, (∀ phase ∈ Phase.all.take count, (progress.get phase).finished.isSome = true) ∧
    (∀ phase ∈ Phase.all.drop count, (progress.get phase).finished = none) ∧
    ∀ phase ∈ Phase.all.drop (count + 1), (progress.get phase).started = none

def Complete (progress : Progress) : Prop :=
  ∀ phase, (progress.get phase).finished.isSome = true

/-- What holds of the stamps at a moment: they are paired and in order, and none lies ahead. -/
structure Sound (now : Timestamp) (progress : Progress) : Prop where
  paired : progress.Paired
  ordered : progress.Ordered
  past : ∀ mark time, progress.stamp mark = some time → time ≤ now

def Behind (ahead : List Mark) (progress : Progress) : Prop :=
  ∀ mark ∈ ahead, progress.stamp mark = none

def Level (ahead : List Mark) (progress : Progress) : Prop :=
  ∀ mark, (progress.stamp mark).isSome = true ↔ mark ∉ ahead

theorem stamp_blank (mark : Mark) : ({} : Progress).stamp mark = none := by
  cases mark with
  | start phase => cases phase <;> rfl
  | finish phase => cases phase <;> rfl

theorem sound_blank (now : Timestamp) : Sound now {} where
  paired phase finished := by
    have none := stamp_blank (.finish phase)
    simp [stamp] at none
    simp [none] at finished
  ordered := by
    have none : Mark.all.filterMap ({} : Progress).stamp = [] :=
      List.filterMap_eq_nil_iff.mpr fun mark _ => stamp_blank mark
    rw [Ordered, none]
    exact .nil
  past mark time stamped := by
    rw [stamp_blank] at stamped
    cases stamped

theorem Sound.later {now later : Timestamp} {progress : Progress} (sound : Sound now progress)
    (passed : now ≤ later) : Sound later progress :=
  ⟨sound.paired, sound.ordered, fun mark time stamped =>
    Timestamp.le_trans (sound.past mark time stamped) passed⟩

theorem behind_blank (ahead : List Mark) : Behind ahead {} := fun mark _ => stamp_blank mark

theorem level_blank : Level Mark.all {} := fun mark => by
  simp [stamp_blank, Mark.mem_all]

theorem Level.complete {progress : Progress} (level : Level [] progress) : progress.Complete :=
  fun phase => (level (.finish phase)).mpr (List.not_mem_nil)

theorem Level.inStep {progress : Progress} {ahead : List Mark} (level : Level ahead progress)
    (suffix : ahead <:+ Mark.all) : progress.InStep := by
  have table : ∀ count < 11,
      (∀ phase ∈ Phase.all.take (count / 2), .finish phase ∉ Mark.all.drop count) ∧
        (∀ phase ∈ Phase.all.drop (count / 2), .finish phase ∈ Mark.all.drop count) ∧
        ∀ phase ∈ Phase.all.drop (count / 2 + 1), .start phase ∈ Mark.all.drop count := by
    decide
  have none : ∀ mark ∈ ahead, progress.stamp mark = none := by
    intro mark member
    have unstamped := mt (level mark).mp (not_not_intro member)
    simpa using unstamped
  have few : Mark.all.length - ahead.length < 11 :=
    Nat.lt_of_le_of_lt (Nat.sub_le _ _) (by decide)
  obtain ⟨finished, unfinished, unstarted⟩ := table _ few
  rw [← List.suffix_iff_eq_drop.mp suffix] at finished unfinished unstarted
  exact ⟨_, fun phase member => (level (.finish phase)).mpr (finished phase member),
    fun phase member => none _ (unfinished phase member),
    fun phase member => none _ (unstarted phase member)⟩

@[simp] theorem stamp_set_started (progress : Progress) (phase : Phase) (now : Timestamp)
    (mark : Mark) :
    (progress.set phase { started := some now }).stamp mark =
      if mark = .start phase then some now
      else if mark = .finish phase then none else progress.stamp mark := by
  cases mark with
  | start other => by_cases same : other = phase <;> simp [stamp, same]
  | finish other => by_cases same : other = phase <;> simp [stamp, same]

@[simp] theorem stamp_set_finished (progress : Progress) (phase : Phase) (now : Timestamp)
    (mark : Mark) :
    (progress.set phase { progress.get phase with finished := some now }).stamp mark =
      if mark = .finish phase then some now else progress.stamp mark := by
  cases mark with
  | start other => by_cases same : other = phase <;> simp [stamp, same]
  | finish other => by_cases same : other = phase <;> simp [stamp, same]

end Progress

namespace Job

def Change.mark? : Change → Option Mark
  | .start phase => some (.start phase)
  | .finishPhase phase => some (.finish phase)
  | .close _ => none

variable {job next : Job} {now : Timestamp} {change : Change}

theorem apply_running (applied : job.apply now change = .ok next) : job.isRunning = true := by
  cases outcome : job.outcome with
  | none => simp [isRunning, outcome]
  | some status =>
    cases change <;>
      simp [apply, startPhase, finishPhase, finish, ensureRunning, outcome, bind, Except.bind]
        at applied

theorem apply_id (applied : job.apply now change = .ok next) : next.id = job.id := by
  have open' : job.outcome = none := by simpa [isRunning] using apply_running applied
  cases change with
  | start phase =>
    simp [apply, startPhase, ensureRunning, open', bind, Except.bind] at applied
    rw [← applied]
  | finishPhase phase =>
    simp only [apply, finishPhase, ensureRunning, open', bind, Except.bind] at applied
    split at applied
    next => cases applied
    next => cases applied; rfl
  | close status =>
    simp [apply, finish, ensureRunning, open', bind, Except.bind] at applied
    rw [← applied]

theorem apply_close {status : FinalStatus} (applied : job.apply now (.close status) = .ok next) :
    next.progress = job.progress ∧ next.outcome = some status := by
  have open' : job.outcome = none := by simpa [isRunning] using apply_running applied
  simp [apply, finish, ensureRunning, open', bind, Except.bind] at applied
  rw [← applied]
  exact ⟨rfl, rfl⟩

theorem apply_mark {mark : Mark} {ahead : List Mark} (marks : change.mark? = some mark)
    (suffix : mark :: ahead <:+ Mark.all) (behind : job.progress.Behind (mark :: ahead))
    (applied : job.apply now change = .ok next) :
    next.outcome = none ∧ (∀ other, next.progress.stamp other =
        if other = mark then some now else job.progress.stamp other) ∧
      ∀ phase, mark = .finish phase → (job.progress.get phase).started.isSome = true := by
  have open' : job.outcome = none := by simpa [isRunning] using apply_running applied
  cases change with
  | close status => cases marks
  | start phase =>
    cases marks
    simp [apply, startPhase, ensureRunning, open', bind, Except.bind] at applied
    subst applied
    refine ⟨rfl, fun other => ?_, nofun⟩
    rw [Progress.stamp_set_started]
    by_cases finish : other = .finish phase
    · -- What the start would forget was not there.
      have none := behind _ (List.mem_cons_of_mem _ (Mark.finish_ahead suffix))
      simp [finish, none]
    · simp [finish]
  | finishPhase phase =>
    cases marks
    simp only [apply, finishPhase, ensureRunning, open', bind, Except.bind] at applied
    split at applied
    next => cases applied
    next since started =>
      cases applied
      refine ⟨rfl, fun other => Progress.stamp_set_finished _ phase now other, ?_⟩
      intro other same
      cases same
      simp [started]

end Job

namespace Progress

variable {progress next : Progress} {mark : Mark} {ahead : List Mark} {before now : Timestamp}

theorem Behind.marked (behind : Behind (mark :: ahead) progress)
    (suffix : mark :: ahead <:+ Mark.all)
    (stamps : ∀ other, next.stamp other = if other = mark then some now else progress.stamp other) :
    Behind ahead next := by
  have nodup := Mark.all_nodup.sublist suffix.sublist
  intro other member
  have different : other ≠ mark := fun same => (List.nodup_cons.mp nodup).1 (same ▸ member)
  rw [stamps, if_neg different]
  exact behind other (List.mem_cons_of_mem mark member)

theorem Level.marked (level : Level (mark :: ahead) progress) (suffix : mark :: ahead <:+ Mark.all)
    (stamps : ∀ other, next.stamp other = if other = mark then some now else progress.stamp other) :
    Level ahead next := by
  have nodup := Mark.all_nodup.sublist suffix.sublist
  intro other
  rw [stamps]
  by_cases same : other = mark
  · simp [same, (List.nodup_cons.mp nodup).1]
  · simp [same, level other]

theorem Sound.marked (sound : Sound before progress) (behind : Behind (mark :: ahead) progress)
    (suffix : mark :: ahead <:+ Mark.all) (passed : before ≤ now)
    (stamps : ∀ other, next.stamp other = if other = mark then some now else progress.stamp other)
    (started : ∀ phase, mark = .finish phase → (progress.get phase).started.isSome = true) :
    Sound now next := by
  have kept : ∀ other, (progress.stamp other).isSome = true → (next.stamp other).isSome = true := by
    intro other stamped
    rw [stamps]
    split
    next => rfl
    next => exact stamped
  constructor
  · intro phase finished
    refine kept (.start phase) ?_
    change (next.stamp (.finish phase)).isSome = true at finished
    rw [stamps] at finished
    split at finished
    next turn => exact started phase turn.symm
    next => exact sound.paired phase finished
  · obtain ⟨done, split⟩ := suffix
    have nodup := Mark.all_nodup
    have ordered := sound.ordered
    simp only [Ordered, ← split, List.filterMap_append] at nodup ordered ⊢
    have unstamped : (mark :: ahead).filterMap progress.stamp = [] :=
      List.filterMap_eq_nil_iff.mpr behind
    have alone : (mark :: ahead).filterMap next.stamp = [now] := by
      rw [List.filterMap_cons_some (by rw [stamps, if_pos rfl])]
      exact congrArg _ (List.filterMap_eq_nil_iff.mpr (behind.marked ⟨done, split⟩ stamps))
    have same : done.filterMap next.stamp = done.filterMap progress.stamp := by
      refine List.filterMap_congr fun other member => ?_
      have different : other ≠ mark := fun same =>
        (List.nodup_append.mp nodup).2.2 other member mark List.mem_cons_self same
      rw [stamps, if_neg different]
    rw [unstamped, List.append_nil] at ordered
    rw [alone, same, List.pairwise_append]
    -- The new stamp comes last, and no earlier one is later than the moment before.
    refine ⟨ordered, List.pairwise_singleton _ _, fun time member last single => ?_⟩
    obtain ⟨other, _, stamped⟩ := List.mem_filterMap.mp member
    rw [List.mem_singleton.mp single]
    exact Timestamp.le_trans (sound.past other time stamped) passed
  · intro other time stamped
    rw [stamps] at stamped
    split at stamped
    next => cases stamped; exact Timestamp.le_refl now
    next => exact Timestamp.le_trans (sound.past other time stamped) passed

end Progress

end TicketReports
