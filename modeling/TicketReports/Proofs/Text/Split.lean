import TicketReports.Text.Split

set_option autoImplicit false

namespace TicketReports.Text

theorem splitWhere_eq_splitOnP {α : Type} (separates : α → Bool) (text : List α) :
    splitWhere separates text = text.splitOnP separates := by
  induction text with
  | nil => rfl
  | cons c rest ih =>
    obtain ⟨part, parts, split⟩ :=
      List.exists_cons_of_ne_nil (List.splitOnP_ne_nil separates rest)
    simp [splitWhere, List.splitOnP_cons_eq_if_modifyHead, ih, split]

theorem splitAll_eq_splitOn (separator : Char) (text : List Char) :
    splitAll separator text = text.splitOn separator :=
  splitWhere_eq_splitOnP _ text

theorem not_mem_of_mem_splitOn {separator : Char} {text part : List Char}
    (member : part ∈ text.splitOn separator) : separator ∉ part := by
  induction text generalizing part with
  | nil => simp_all
  | cons c rest ih =>
    rw [List.splitOn_cons_eq_if_modifyHead] at member
    obtain ⟨first, parts, split⟩ := List.exists_cons_of_ne_nil (List.splitOn_ne_nil separator rest)
    rw [split] at ih member
    by_cases separates : c = separator
    · simp only [separates, beq_self_eq_true, if_true, List.mem_cons] at member
      rcases member with rfl | later
      · exact List.not_mem_nil
      · exact ih (List.mem_cons.mpr later)
    · simp only [beq_iff_eq, separates, if_false, List.modifyHead_cons, List.mem_cons] at member
      rcases member with rfl | later
      · simpa [Ne.symm separates] using ih List.mem_cons_self
      · exact ih (List.mem_cons_of_mem _ later)

end TicketReports.Text
