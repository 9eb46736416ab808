import TicketReports.Proofs.JobStore.Window

set_option autoImplicit false

namespace TicketReports

namespace Page

def numbers (count : Nat) : List UInt32 := (List.range count).map fun index => .ofNat (index + 1)

def needed (entries : Nat) (size : UInt32) : Nat := (entries + (size.toNat - 1)) / size.toNat

theorem new_ok {number size : UInt32} (counted : number ≠ 0) (roomy : size ≠ 0) :
    new number size = .ok ⟨number, size, counted, roomy⟩ :=
  new_self ⟨number, size, counted, roomy⟩

theorem window_eq {α : Type} (page : Page) (entries : List α) :
    page.window entries = (entries.drop page.before).take page.size.toNat := by
  rw [window, page.offset_toNat]

theorem flatMap_windows {α : Type} (entries : List α) (size count : Nat) :
    ((List.range count).flatMap fun index => (entries.drop (index * size)).take size) =
      entries.take (count * size) := by
  induction count with
  | zero => simp
  | succ count ih =>
    rw [List.range_succ, List.flatMap_append, ih, Nat.succ_mul, List.take_add]
    simp

section Needed

variable {size : UInt32}

theorem toNat_pos {n : UInt32} (nonzero : n ≠ 0) : 0 < n.toNat :=
  Nat.pos_of_ne_zero fun zero => nonzero (UInt32.toNat_inj.mp zero)

theorem needed_le_iff (roomy : size ≠ 0) {entries count : Nat} :
    needed entries size ≤ count ↔ entries ≤ count * size.toNat := by
  have positive := toNat_pos roomy
  rw [needed, ← Nat.lt_succ_iff, Nat.div_lt_iff_lt_mul positive, Nat.succ_mul]
  omega

theorem numbers_succ (count : Nat) :
    numbers (count + 1) = numbers count ++ [.ofNat (count + 1)] := by
  simp [numbers, List.range_succ]

theorem toNat_number {index : Nat} (fits : index + 1 < UInt32.size) :
    (UInt32.ofNat (index + 1)).toNat = index + 1 :=
  UInt32.toNat_ofNat_of_lt fits

end Needed

end Page

namespace History

def listed (history : History) (size number : UInt32) : Except StoreError (List Job) :=
  match Page.new number size with
  | .error error => .error (.domain error)
  | .ok page => (JobStore.list page history).1

/-- The pages of a size show the whole history, the job added last first. -/
structure Paged (history : History) (size : UInt32) : Prop where
  -- The pages that are needed give every job once.
  whole : Page.needed history.jobs.length size < UInt32.size →
    ∃ leaves, (Page.numbers (Page.needed history.jobs.length size)).mapM (history.listed size) =
      .ok leaves ∧ leaves.flatten = history.jobs.reverse
  -- However many jobs there are, the first pages give those that were added last.
  first : ∀ count < UInt32.size, ∃ leaves,
    (Page.numbers count).mapM (history.listed size) = .ok leaves ∧
      leaves.flatten = history.jobs.reverse.take (count * size.toNat)
  full : ∀ number, number ≠ 0 → number.toNat < Page.needed history.jobs.length size →
    ∃ leaf, history.listed size number = .ok leaf ∧ leaf.length = size.toNat
  beyond : ∀ number : UInt32, Page.needed history.jobs.length size < number.toNat →
    history.listed size number = .ok []
  -- Nothing wraps where the entries before a page are counted.
  exact : ∀ number, number ≠ 0 → ∃ page, Page.new number size = .ok page ∧
    page.offset.toNat = (number.toNat - 1) * size.toNat

section Listed

variable {size : UInt32}

theorem listed_ok (history : History) (roomy : size ≠ 0) {number : UInt32} (counted : number ≠ 0) :
    history.listed size number =
      .ok ((history.jobs.reverse.drop ((number.toNat - 1) * size.toNat)).take size.toNat) := by
  rw [listed, Page.new_ok counted roomy]
  exact congrArg Except.ok (Page.window_eq _ _)

theorem listed_first (history : History) (roomy : size ≠ 0) {count : Nat}
    (fits : count < UInt32.size) : (Page.numbers count).mapM (history.listed size) =
      .ok ((List.range count).map fun index =>
        (history.jobs.reverse.drop (index * size.toNat)).take size.toNat) := by
  induction count with
  | zero => rfl
  | succ count ih =>
    have number := Page.toNat_number fits
    have counted : UInt32.ofNat (count + 1) ≠ 0 := by
      intro zero
      rw [zero] at number
      cases number
    have leaf := history.listed_ok roomy counted
    rw [number, Nat.add_sub_cancel] at leaf
    rw [Page.numbers_succ, List.mapM_append, ih (Nat.lt_of_succ_lt fits), List.mapM_cons, leaf,
      List.range_succ, List.map_append]
    rfl

theorem pages_cut_the_history (history : History) (roomy : size ≠ 0) : history.Paged size := by
  have first : ∀ count < UInt32.size, ∃ leaves,
      (Page.numbers count).mapM (history.listed size) = .ok leaves ∧
        leaves.flatten = history.jobs.reverse.take (count * size.toNat) := by
    intro count fits
    refine ⟨_, history.listed_first roomy fits, ?_⟩
    rw [← List.flatMap_def, Page.flatMap_windows]
  refine ⟨fun fits => ?_, first, fun number counted inside => ?_, fun number past => ?_,
    fun number counted => ⟨_, Page.new_ok counted roomy, Page.offset_toNat _⟩⟩
  · obtain ⟨leaves, listed, joined⟩ := first _ fits
    refine ⟨leaves, listed, joined.trans (List.take_of_length_le ?_)⟩
    rw [List.length_reverse]
    exact (Page.needed_le_iff roomy).mp (Nat.le_refl _)
  · refine ⟨_, history.listed_ok roomy counted, ?_⟩
    have more := (Page.needed_le_iff roomy).not.mp (Nat.not_le_of_lt inside)
    have before : (number.toNat - 1) * size.toNat + size.toNat = number.toNat * size.toNat := by
      rw [← Nat.succ_mul, Nat.succ_eq_add_one, Nat.sub_add_cancel (Page.toNat_pos counted)]
    rw [List.length_take, List.length_drop, List.length_reverse]
    omega
  · have counted : number ≠ 0 := by
      rintro rfl
      cases past
    have before : history.jobs.length ≤ (number.toNat - 1) * size.toNat :=
      (Page.needed_le_iff roomy).mp (Nat.le_sub_one_of_lt past)
    rw [history.listed_ok roomy counted, List.drop_eq_nil_of_le (by simpa using before),
      List.take_nil]

end Listed

end History

end TicketReports
