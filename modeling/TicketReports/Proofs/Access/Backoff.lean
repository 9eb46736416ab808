import Mathlib.Algebra.Group.Nat.Defs
import TicketReports.Access.Retry

set_option autoImplicit false

namespace TicketReports

namespace RetryPolicy

theorem factor_eq (n : UInt32) : factor n = min (2 ^ n.toNat) (2 ^ 32 - 1) := by
  unfold factor
  split
  next small =>
    have fits : 2 ^ n.toNat ≤ 2 ^ 31 := Nat.pow_le_pow_right (by decide) (by omega)
    rw [Nat.one_shiftLeft]
    omega
  next large =>
    have exceeds : 2 ^ 32 ≤ 2 ^ n.toNat := Nat.pow_le_pow_right (by decide) (by omega)
    simp only [UInt32.size]
    omega

theorem factor_mono {m n : UInt32} (earlier : m ≤ n) : factor m ≤ factor n := by
  have powers : 2 ^ m.toNat ≤ 2 ^ n.toNat :=
    Nat.pow_le_pow_right (by decide) (UInt32.le_iff_toNat_le.mp earlier)
  rw [factor_eq, factor_eq]
  omega

variable (policy : RetryPolicy)

theorem backoff_nanos (n : UInt32) :
    (policy.backoff n).nanos = min (policy.waitMin.nanos * factor n) policy.waitMax.nanos := by
  have cap := policy.waitMax.nanos_le
  unfold backoff Duration.times?
  split
  next fits => simp
  next exceeds =>
    -- What no duration can hold is longer than the cap, which is one.
    simp only [Option.getD_none, Duration.nanos_min]
    omega

theorem backoff_le (n : UInt32) : (policy.backoff n).nanos ≤ policy.waitMax.nanos := by
  rw [backoff_nanos]
  omega

theorem backoff_mono {m n : UInt32} (earlier : m ≤ n) :
    (policy.backoff m).nanos ≤ (policy.backoff n).nanos := by
  have longer := Nat.mul_le_mul_left policy.waitMin.nanos (factor_mono earlier)
  rw [backoff_nanos, backoff_nanos]
  omega

theorem min_mul_eq_iff {wait cap short full : Nat} (less : short < full) :
    min (wait * short) cap = min (wait * full) cap ↔ wait = 0 ∨ cap ≤ wait * short := by
  constructor
  · intro same
    rcases Nat.eq_zero_or_pos wait with none | some
    · exact .inl none
    · have longer := Nat.mul_lt_mul_of_pos_left less some
      omega
  · rintro (none | reached)
    · simp [none]
    · have longer := Nat.mul_le_mul_left wait (Nat.le_of_lt less)
      omega

/-- A wait is the shortest one times a power of two, or times 2^32 - 1 where that is less, up to the
cap. -/
theorem waits_double_while_power_fits (n : UInt32) :
    (policy.backoff n).nanos =
        min (policy.waitMin.nanos * min (2 ^ n.toNat) (2 ^ 32 - 1)) policy.waitMax.nanos ∧
      ((policy.backoff n).nanos =
          min (policy.waitMin.nanos * 2 ^ n.toNat) policy.waitMax.nanos ↔
        n < 32 ∨ policy.waitMin.nanos = 0 ∨
          policy.waitMax.nanos ≤ policy.waitMin.nanos * (2 ^ 32 - 1)) := by
  have wait := policy.backoff_nanos n
  rw [factor_eq] at wait
  refine ⟨wait, ?_⟩
  rw [wait]
  by_cases small : n < 32
  next =>
    have bound : n.toNat < 32 := UInt32.lt_iff_toNat_lt.mp small
    have fits : 2 ^ n.toNat ≤ 2 ^ 31 := Nat.pow_le_pow_right (by decide) (by omega)
    have whole : min (2 ^ n.toNat) (2 ^ 32 - 1) = 2 ^ n.toNat := by omega
    rw [whole]
    simp only [small, true_or]
  next =>
    have bound : 32 ≤ n.toNat := UInt32.le_iff_toNat_le.mp (UInt32.not_lt.mp small)
    have exceeds : 2 ^ 32 ≤ 2 ^ n.toNat := Nat.pow_le_pow_right (by decide) bound
    have cut : min (2 ^ n.toNat) (2 ^ 32 - 1) = 2 ^ 32 - 1 := by omega
    rw [cut, min_mul_eq_iff (by omega)]
    simp only [small, false_or]

def patient : RetryPolicy :=
  { waitMin := .ofMillis 1, waitMax := .ofMillis 8589934592, maxRetries := 40 }

theorem later_wait_falls_short :
    ¬(patient.backoff 32).nanos =
      min (patient.waitMin.nanos * 2 ^ (32 : UInt32).toNat) patient.waitMax.nanos := by
  decide

end RetryPolicy

end TicketReports
