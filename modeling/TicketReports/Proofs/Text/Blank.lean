import Mathlib.Data.List.TakeWhile
import TicketReports.Text.Blank

set_option autoImplicit false

namespace TicketReports.Text

def Bare (text : List Char) : Prop :=
  (∀ c ∈ text.head?, isBlank c = false) ∧ ∀ c ∈ text.getLast?, isBlank c = false

def Blank (text : List Char) : Prop := ∀ c ∈ text, isBlank c = true

/-- A text that is bare, with white space on both sides. -/
inductive Padded (bare : List Char) : List Char → Prop where
  | mk {front back : List Char} (before : Blank front) (after : Blank back) (held : Bare bare) :
    Padded bare (front ++ bare ++ back)

section Trimming

variable {front text back : List Char}

theorem trimStart_append (blank : Blank front) : trimStart (front ++ text) = trimStart text :=
  List.dropWhile_append_of_pos blank

theorem trimEnd_append (blank : Blank back) : trimEnd (text ++ back) = trimEnd text := by
  have reversed : Blank back.reverse := fun c member => blank c (List.mem_reverse.mp member)
  rw [trimEnd, List.reverse_append, List.dropWhile_append_of_pos reversed, trimEnd]

theorem trimStart_eq_self (start : ∀ c ∈ text.head?, isBlank c = false) :
    trimStart text = text := by
  cases text with
  | nil => rfl
  | cons c rest => simp [trimStart, start c rfl]

theorem trimEnd_eq_self (finish : ∀ c ∈ text.getLast?, isBlank c = false) :
    trimEnd text = text := by
  have turned : trimStart text.reverse = text.reverse :=
    trimStart_eq_self (by simpa using finish)
  rw [trimEnd, ← trimStart, turned, List.reverse_reverse]

theorem Padded.trimmed_eq {bare : List Char} (padded : Padded bare text) : trimmed text = bare := by
  cases padded with
  | @mk front back before after held =>
    cases bare with
    | nil =>
      -- Nothing but white space is left, on whichever side it stood.
      have nothing : trimStart back = [] := List.dropWhile_eq_nil_iff.mpr after
      rw [List.append_nil, trimmed, trimStart_append before, nothing]
      rfl
    | cons c rest =>
      have kept : trimStart (c :: rest ++ back) = c :: rest ++ back :=
        trimStart_eq_self held.1
      rw [trimmed, List.append_assoc, trimStart_append before, kept, trimEnd_append after,
        trimEnd_eq_self held.2]

theorem head?_trimStart (text : List Char) : ∀ c ∈ (trimStart text).head?, isBlank c = false := by
  intro c first
  have open' := List.head?_dropWhile_not isBlank text
  rw [← trimStart, first] at open'
  exact open'

theorem padded_trimmed (text : List Char) : Padded (trimmed text) text := by
  have opened : text.takeWhile isBlank ++ trimStart text = text :=
    List.takeWhile_append_dropWhile
  have closed : trimmed text ++ ((trimStart text).reverse.takeWhile isBlank).reverse =
      trimStart text := by
    rw [trimmed, trimEnd, ← List.reverse_append, List.takeWhile_append_dropWhile,
      List.reverse_reverse]
  have held : Bare (trimmed text) := by
    constructor
    · intro c first
      apply head?_trimStart text c
      rw [← closed, List.head?_append, Option.mem_def.mp first]
      rfl
    · intro c last
      apply head?_trimStart (trimStart text).reverse c
      rwa [trimmed, trimEnd, List.getLast?_reverse] at last
  have before : Blank (text.takeWhile isBlank) := fun c => List.mem_takeWhile_imp
  have after : Blank ((trimStart text).reverse.takeWhile isBlank).reverse := fun c member =>
    List.mem_takeWhile_imp (List.mem_reverse.mp member)
  have padded := Padded.mk before after held
  rwa [List.append_assoc, closed, opened] at padded

end Trimming

theorem trimmed_eq_nil_iff {text : List Char} : trimmed text = [] ↔ Blank text := by
  constructor
  · intro nothing
    have padded := padded_trimmed text
    rw [nothing] at padded
    cases padded with
    | mk before after =>
      rw [List.append_nil]
      exact List.forall_mem_append.mpr ⟨before, after⟩
  · intro blank
    have bare : Bare [] := by simp [Bare]
    have padded := Padded.mk blank (fun c none => absurd none List.not_mem_nil) bare
    exact Padded.trimmed_eq (by simpa using padded)

theorem trim_eq_empty_iff (text : String) : trim text = "" ↔ allBlank text = true := by
  rw [trim, String.ofList_eq_empty_iff, trimmed_eq_nil_iff, allBlank, List.all_eq_true, Blank]

theorem ne_empty_of_trim {text : String} (kept : trim text ≠ "") : text ≠ "" := by
  rintro rfl
  exact kept rfl

end TicketReports.Text
