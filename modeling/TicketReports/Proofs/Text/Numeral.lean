import Mathlib.Data.Nat.Digits.Lemmas
import TicketReports.Text.Numeral

set_option autoImplicit false

namespace TicketReports.Text

def spelled (digits : List Char) : Nat :=
  Nat.ofDigits 10 (digits.reverse.map fun c => c.toNat - '0'.toNat)

/-- The text is an unsigned decimal numeral for the number: ASCII digits, at least one, that may
stand behind a plus sign. -/
inductive Numeral : List Char → Nat → Prop where
  | plain {digits : List Char} (nonempty : digits ≠ []) (decimal : ∀ c ∈ digits, c.isDigit = true) :
    Numeral digits (spelled digits)
  | signed {digits : List Char} (nonempty : digits ≠ [])
    (decimal : ∀ c ∈ digits, c.isDigit = true) :
    Numeral ('+' :: digits) (spelled digits)

theorem spelled_cons (c : Char) (digits : List Char) :
    spelled (c :: digits) = (c.toNat - '0'.toNat) * 10 ^ digits.length + spelled digits := by
  simp [spelled, Nat.ofDigits_append, Nat.mul_comm, Nat.add_comm]

theorem readDigits_eq_ok_iff {limit value n : Nat} {digits : List Char} (within : value ≤ limit) :
    readDigits limit value digits = .ok n ↔
      (∀ c ∈ digits, c.isDigit = true) ∧ n = value * 10 ^ digits.length + spelled digits ∧
        n ≤ limit := by
  induction digits generalizing value with
  | nil =>
    simp only [readDigits, Except.ok.injEq, List.not_mem_nil, false_implies, implies_true,
      true_and, List.length_nil, Nat.pow_zero, Nat.mul_one]
    have nothing : spelled [] = 0 := rfl
    omega
  | cons c rest ih =>
    have whole : value * 10 ^ (c :: rest).length + spelled (c :: rest) =
        (value * 10 + (c.toNat - '0'.toNat)) * 10 ^ rest.length + spelled rest := by
      rw [spelled_cons, List.length_cons, Nat.pow_succ']
      ring
    by_cases decimal : c.isDigit = true
    · rw [readDigits, digit?, if_pos decimal, List.forall_mem_cons, whole]
      dsimp only
      split
      next fits => rw [ih fits, and_iff_right decimal]
      next large =>
        -- What was read so far only grows, so the number is too large as well.
        have grows : value * 10 + (c.toNat - '0'.toNat) ≤
            (value * 10 + (c.toNat - '0'.toNat)) * 10 ^ rest.length + spelled rest :=
          (Nat.le_mul_of_pos_right _ (Nat.pow_pos (by decide))).trans (Nat.le_add_right _ _)
        constructor
        · rintro ⟨⟩
        · rintro ⟨_, rfl, small⟩
          omega
    · rw [readDigits, digit?, if_neg decimal, List.forall_mem_cons]
      simp [decimal]

theorem readDigits_zero {limit n : Nat} {digits : List Char} :
    readDigits limit 0 digits = .ok n ↔
      (∀ c ∈ digits, c.isDigit = true) ∧ n = spelled digits ∧ n ≤ limit := by
  rw [readDigits_eq_ok_iff (Nat.zero_le _), Nat.zero_mul, Nat.zero_add]

theorem readNumeral_eq_ok_iff {limit n : Nat} {text : List Char} :
    readNumeral limit text = .ok n ↔ Numeral text n ∧ n ≤ limit := by
  fun_cases readNumeral limit text with
  | case1 =>
    refine iff_of_false (by simp) fun ⟨numeral, _⟩ => ?_
    cases numeral with
    | plain nonempty _ => exact absurd rfl nonempty
  | case2 =>
    refine iff_of_false (by simp) fun ⟨numeral, _⟩ => ?_
    cases numeral with
    | plain _ decimal => exact absurd (decimal '+' List.mem_cons_self) (by decide)
    | signed nonempty _ => exact absurd rfl nonempty
  | case3 digits nonempty =>
    rw [readDigits_zero]
    constructor
    · rintro ⟨decimal, rfl, fits⟩
      exact ⟨.signed (by simpa using nonempty) decimal, fits⟩
    · rintro ⟨numeral, fits⟩
      cases numeral with
      | plain _ decimal => exact absurd (decimal '+' List.mem_cons_self) (by decide)
      | signed _ decimal => exact ⟨decimal, rfl, fits⟩
  | case4 text nonempty _ unsigned =>
    rw [readDigits_zero]
    constructor
    · rintro ⟨decimal, rfl, fits⟩
      exact ⟨.plain (by simpa using nonempty) decimal, fits⟩
    · rintro ⟨numeral, fits⟩
      cases numeral with
      | plain _ decimal => exact ⟨decimal, rfl, fits⟩
      | signed _ _ => exact absurd rfl (unsigned _)

theorem Numeral.unique {text : List Char} {n m : Nat} (first : Numeral text n)
    (second : Numeral text m) : n = m := by
  have here := readNumeral_eq_ok_iff.mpr ⟨first, Nat.le_max_left n m⟩
  have there := readNumeral_eq_ok_iff.mpr ⟨second, Nat.le_max_right n m⟩
  exact Except.ok.inj (here.symm.trans there)

end TicketReports.Text
