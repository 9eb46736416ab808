import Mathlib.Algebra.Group.Nat.Defs
import Mathlib.Data.List.Sort
import Mathlib.Data.Prod.Lex
import TicketReports.JobStore.Archive
import TicketReports.Proofs.JobStore.Precision

set_option autoImplicit false

namespace TicketReports

structure Arrival where
  id : JobId
  createdAt : Timestamp
  deriving DecidableEq, Repr

structure Arrival.Before (earlier later : Arrival) : Prop where
  id : earlier.id.bits.toNat < later.id.bits.toNat
  createdAt : earlier.createdAt.toMicros ≤ later.createdAt.toMicros

def Job.arrival? (job : Job) : Option Arrival := job.id.map fun id => ⟨id, job.createdAt⟩

section Sorted

variable {α β : Type} [LinearOrder β] (key : α → β) {le : α → α → Bool} {entries sorted : List α}

theorem mergeSort_congr (same : ∀ a ∈ entries, ∀ b ∈ entries, le a b = decide (key a ≤ key b)) :
    entries.mergeSort le = entries.mergeSort fun a b => decide (key a ≤ key b) := by
  simpa using List.map_mergeSort (f := id) same

theorem mergeSort_of_increasing (permuted : entries.Perm sorted)
    (compares : ∀ a ∈ sorted, ∀ b ∈ sorted, le a b = decide (key a ≤ key b))
    (increasing : sorted.Pairwise fun a b => key a < key b) : entries.mergeSort le = sorted := by
  have among {a : α} (member : a ∈ entries) : a ∈ sorted := permuted.mem_iff.mp member
  rw [mergeSort_congr key fun a first b second => compares a (among first) b (among second)]
  have ascending := List.pairwise_mergeSort
    (fun a b c below above => decide_eq_true
      (le_trans (of_decide_eq_true (p := key a ≤ key b) below) (of_decide_eq_true above)))
    (fun a b => by simpa using le_total (key a) (key b)) entries
  have distinct : (sorted.map key).Nodup := by
    rw [List.Nodup, List.pairwise_map]
    exact increasing.imp ne_of_lt
  -- Two ascending arrangements of the same entries are equal, as no two entries share a key.
  refine List.Perm.eq_of_pairwise ?_ (ascending.imp of_decide_eq_true) (increasing.imp le_of_lt)
    ((List.mergeSort_perm entries _).trans permuted)
  intro a b first second below above
  exact List.inj_on_of_nodup_map distinct (among (List.mem_mergeSort.mp first)) second
    (le_antisymm below above)

end Sorted

namespace Archive

open Sql

theorem signed_toInt {word : UInt64} (small : word.toNat < 2 ^ 63) :
    (signed word).toInt = word.toNat := by
  change word.toBitVec.toInt = _
  rw [BitVec.toInt_eq_toNat_of_lt]
  · rfl
  · change 2 * word.toNat < _
    omega

theorem limit_toInt (page : Page) : (Int64.ofInt page.size.toNat).toInt = page.size.toNat := by
  have small := page.size.toNat_lt
  exact Int64.toInt_ofInt_of_le (by omega) (by omega)

theorem limit_not_neg (page : Page) : ¬ Int64.ofInt page.size.toNat < 0 := by
  rw [Int64.lt_iff_toInt_lt, limit_toInt]
  simp

theorem windowed_page {page : Page} (addressable : page.offset.toNat < 2 ^ 63) (rows : List Row) :
    Table.windowed .page (window page) rows = .ok (page.window rows) := by
  have offset := signed_toInt addressable
  have placed : ¬ signed page.offset < 0 := by
    rw [Int64.lt_iff_toInt_lt, offset]
    simp
  rw [window, Table.windowed, if_neg (limit_not_neg page), if_neg placed, limit_toInt, offset]
  rfl

end Archive

namespace JobRow

open Sql

def place (row : Row) : Int ×ₗ Nat :=
  toLex
    (match row .createdAt with
      | .moment micros => micros
      | _ => 0,
    match row .id with
      | .id id => id.bits.toNat
      | _ => 0)

theorem place_row {job : Job} {id : JobId} (named : job.id = some id) :
    place (row job) = toLex (job.createdAt.toMicros, id.bits.toNat) := by
  simp [place, row, named]

theorem older_row {first second : Job} (firstNamed : first.id ≠ none)
    (secondNamed : second.id ≠ none) : Table.older (row first) (row second) =
      decide (place (row first) ≤ place (row second)) := by
  obtain ⟨i, firstNamed⟩ := Option.ne_none_iff_exists'.mp firstNamed
  obtain ⟨j, secondNamed⟩ := Option.ne_none_iff_exists'.mp secondNamed
  rw [place_row firstNamed, place_row secondNamed, Table.older]
  simp only [row, firstNamed, secondNamed, Option.elim, Prod.Lex.toLex_le_toLex, JobId.le]
  by_cases same : first.createdAt.toMicros = second.createdAt.toMicros <;> simp [same]

theorem find?_toList {jobs : List Job} (distinct : (jobs.map Job.id).Nodup) (id : JobId) :
    (jobs.find? fun job => job.id == some id).toList =
      jobs.filter fun job => job.id == some id := by
  induction jobs with
  | nil => rfl
  | cons job rest ih =>
    rw [List.map_cons, List.nodup_cons] at distinct
    by_cases here : job.id = some id
    next =>
      have others : rest.filter (fun job => job.id == some id) = [] := by
        rw [List.filter_eq_nil_iff]
        intro other member same
        exact distinct.1 (here ▸ beq_iff_eq.mp same ▸ List.mem_map_of_mem member)
      simp [here, others]
    next => simp [here, ih distinct.2]

/-- The jobs have the ids and the times of arrivals that came one after another. -/
structure Succession (arrivals : List Arrival) (jobs : List Job) : Prop where
  arrived : jobs.map Job.arrival? = arrivals.map some
  increasing : arrivals.Pairwise Arrival.Before

namespace Succession

variable {arrivals : List Arrival} {jobs : List Job} (succession : Succession arrivals jobs)
include succession

theorem named : ∀ job ∈ jobs, job.id ≠ none := by
  intro job member unnamed
  have among : job.arrival? ∈ arrivals.map some :=
    succession.arrived ▸ List.mem_map_of_mem member
  simp [Job.arrival?, unnamed] at among

theorem pairwise : jobs.Pairwise fun earlier later => ∀ i j, earlier.id = some i →
    later.id = some j → Arrival.Before ⟨i, earlier.createdAt⟩ ⟨j, later.createdAt⟩ := by
  have ordered : (jobs.map Job.arrival?).Pairwise fun earlier later =>
      ∀ a b, earlier = some a → later = some b → a.Before b := by
    rw [succession.arrived, List.pairwise_map]
    refine succession.increasing.imp fun before a b first second => ?_
    cases first
    cases second
    exact before
  rw [List.pairwise_map] at ordered
  refine ordered.imp fun before i j first second => ?_
  exact before _ _ (by rw [Job.arrival?, first]; rfl) (by rw [Job.arrival?, second]; rfl)

theorem distinct : (jobs.map Job.id).Nodup := by
  rw [List.Nodup, List.pairwise_map]
  refine succession.pairwise.imp_of_mem fun {earlier later} first _ before same => ?_
  obtain ⟨i, holds⟩ := Option.ne_none_iff_exists'.mp (succession.named earlier first)
  exact (before i i holds (same ▸ holds)).id.ne rfl

theorem places : (jobs.map row).Pairwise fun earlier later => place earlier < place later := by
  rw [List.pairwise_map]
  refine succession.pairwise.imp_of_mem fun {earlier later} first second before => ?_
  obtain ⟨i, firstNamed⟩ := Option.ne_none_iff_exists'.mp (succession.named earlier first)
  obtain ⟨j, secondNamed⟩ := Option.ne_none_iff_exists'.mp (succession.named later second)
  obtain ⟨below, notAfter⟩ := before i j firstNamed secondNamed
  rw [place_row firstNamed, place_row secondNamed, Prod.Lex.toLex_lt_toLex]
  rcases Int.lt_or_eq_of_le notAfter with sooner | together
  next => exact .inl sooner
  next => exact .inr ⟨together, below⟩

theorem compares {a b : Row} (first : a ∈ jobs.map row) (second : b ∈ jobs.map row) :
    Table.older a b = decide (place a ≤ place b) := by
  obtain ⟨earlier, stored, rfl⟩ := List.mem_map.mp first
  obtain ⟨later, kept, rfl⟩ := List.mem_map.mp second
  exact older_row (succession.named earlier stored) (succession.named later kept)

theorem oldestFirst {kept : List Job} (among : kept.Sublist jobs) {rows : List Row}
    (permuted : rows.Perm (kept.map row)) : Table.ordered .oldestFirst rows = kept.map row := by
  have included := (among.map row).subset
  refine mergeSort_of_increasing place permuted (fun a first b second => ?_)
    (succession.places.sublist (among.map row))
  exact succession.compares (included first) (included second)

theorem newestFirst {rows : List Row} (permuted : rows.Perm (jobs.map row)) :
    Table.ordered .newestFirst rows = (jobs.map row).reverse := by
  -- From the newest down, the reversed list ascends in the opposite order.
  refine mergeSort_of_increasing (fun row => OrderDual.toDual (place row))
    (permuted.trans (List.reverse_perm _).symm) (fun a first b second => ?_)
    (List.pairwise_reverse.mpr succession.places)
  exact succession.compares (List.mem_reverse.mp second) (List.mem_reverse.mp first)

section Selections

variable {held : List Row} (permuted : held.Perm (jobs.map row))
include permuted

theorem selects_id (id : JobId) :
    Table.windowed .unlimited [.id id]
      (Table.ordered .unordered (held.filter (Table.keeps .byId [.id id]))) =
        .ok ((jobs.find? fun job => job.id == some id).toList.map row) := by
  have own : (Table.keeps .byId [.id id]) ∘ row = fun job => job.id == some id :=
    funext (hasId_row id)
  have found := permuted.filter (Table.keeps .byId [.id id])
  rw [List.filter_map, own, ← find?_toList succession.distinct id] at found
  -- There is one such row at most, so that it does not matter in which order they are.
  cases stored : jobs.find? fun job => job.id == some id with
  | none =>
    rw [stored] at found
    exact congrArg Except.ok found.eq_nil
  | some job =>
    rw [stored] at found
    exact congrArg Except.ok (List.perm_singleton.mp found)

theorem selects_last :
    Table.windowed .first []
      (Table.ordered .newestFirst (held.filter (Table.keeps .everything []))) =
        .ok (jobs.getLast?.toList.map row) := by
  have all : held.filter (Table.keeps .everything []) = held := List.filter_true held
  rw [all, succession.newestFirst permuted, Table.windowed, ← List.map_reverse, ← List.map_take,
    List.take_one, List.head?_reverse]

theorem selects_running :
    Table.windowed .unlimited []
      (Table.ordered .oldestFirst (held.filter (Table.keeps .unfinished []))) =
        .ok ((jobs.filter Job.isRunning).map row) := by
  have unfinished : Table.keeps .unfinished [] ∘ row = Job.isRunning := funext unfinished_row
  have found := permuted.filter (Table.keeps .unfinished [])
  rw [List.filter_map, unfinished] at found
  rw [succession.oldestFirst List.filter_sublist found, Table.windowed]

theorem selects_page {page : Page} (addressable : page.offset.toNat < 2 ^ 63) :
    Table.windowed .page (Archive.window page)
      (Table.ordered .newestFirst (held.filter (Table.keeps .everything (Archive.window page)))) =
        .ok ((page.window jobs.reverse).map row) := by
  have all : held.filter (Table.keeps .everything (Archive.window page)) = held :=
    List.filter_true held
  rw [all, succession.newestFirst permuted, Archive.windowed_page addressable, Page.window,
    Page.window, List.map_take, List.map_drop, List.map_reverse]

end Selections

end Succession

end JobRow

end TicketReports
