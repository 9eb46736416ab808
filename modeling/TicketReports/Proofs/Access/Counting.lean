import TicketReports.Access.Unreachable
import TicketReports.Proofs.Access.Attempts

set_option autoImplicit false

namespace TicketReports

open Deed

namespace Endpoint

section Counting

variable {W : Type} [Network W] (endpoint : Endpoint) (method : Method) (channel : String)
  (body : Option Json)

/-- A call that was begun with `start` nanoseconds has failed `n` times and waited after each of
them. It goes on with its counter at `made`. -/
inductive Retried (start : Nat) (begun : W) : Nat → UInt32 → Nat → W → Prop
  | begins : Retried start begun 0 0 start begun
  | again {n left after : Nat} {made : UInt32} {w next : W}
      (before : Retried start begun n made left w) (time : left ≠ 0)
      (failed : endpoint.trial method channel body (made + 1) left w = .again after next) :
      Retried start begun (n + 1) (made + 1) after next

/-- The networks there are always have a token and answer no request with status 200. -/
structure Failing (vain : W → Prop) : Prop where
  granted {w : W} (now : vain w) : ∃ token next, Network.token w = (.ok token, next) ∧ vain next
  refused (request : Request) {w : W} {reply : Reply} (now : vain w)
    (came : (Network.send request w).1.reply = some reply) : reply.status ≠ 200
  stays (request : Request) {w : W} (now : vain w) : vain (Network.send request w).2

variable {endpoint method channel body} {start n left after : Nat} {made : UInt32}
  {begun w next : W}

theorem trial_again_less (time : left ≠ 0)
    (failed : endpoint.trial method channel body made left w = .again after next) :
    after < left := by
  cases tried_of failed with
  | again does => exact Nat.lt_of_le_of_lt (Nat.sub_le _ _) (does.costs time)

theorem Retried.call_eq
    (retried : endpoint.Retried method channel body start begun n made left w) :
    endpoint.call method channel body start begun =
      endpoint.callFrom method channel body made left w := by
  induction retried with
  | begins => rfl
  | @again n left after made w next before time failed ih =>
    rw [ih, callFrom, if_neg time, failed]
    exact if_pos (trial_again_less time failed)

theorem Retried.counter
    (retried : endpoint.Retried method channel body start begun n made left w) :
    made = UInt32.ofNat n := by
  induction retried with
  | begins => rfl
  | again before time failed ih => rw [ih, UInt32.ofNat_add]; rfl

theorem Retried.within (bounded : endpoint.policy.maxRetries.toNat + 1 < UInt32.size)
    (retried : endpoint.Retried method channel body start begun n made left w) :
    made.toNat = n ∧ n ≤ endpoint.policy.maxRetries.toNat := by
  induction retried with
  | begins => exact ⟨rfl, Nat.zero_le _⟩
  | again before time failed ih =>
    obtain ⟨counted, within⟩ := ih
    have next := toNat_next (Nat.lt_of_le_of_lt (Nat.succ_le_succ (counted ▸ within)) bounded)
    cases tried_of failed with
    | again does vain more =>
      have allowed := allows_iff.mp more
      omega

theorem Retried.counts (bounded : endpoint.policy.maxRetries.toNat + 1 < UInt32.size)
    (retried : endpoint.Retried method channel body start begun n made left w) :
    (made + 1).toNat = n + 1 := by
  obtain ⟨counted, within⟩ := retried.within bounded
  rw [toNat_next (by omega), counted]

theorem Retried.ends
    (retried : endpoint.Retried method channel body start begun n made left w) :
    ∃ n made left w, endpoint.Retried method channel body start begun n made left w ∧
      ((endpoint.call method channel body start begun).1 = .error .cancelled ∨
        ∃ result after next,
          endpoint.trial method channel body (made + 1) left w = .ended result after next ∧
          (endpoint.call method channel body start begun).1 = result) := by
  have same := retried.call_eq
  -- The call goes on from the end of its failures: induction on what is left to do there.
  fun_induction callFrom endpoint method channel body made left w generalizing n with
  | case1 => exact ⟨_, _, _, _, retried, .inl (by rw [same])⟩
  | case2 made left w time result after next ended =>
    exact ⟨_, _, _, _, retried, .inr ⟨_, _, _, ended, by rw [same]⟩⟩
  | case3 made left w time after next failed less ih => exact ih (retried.again time failed) same
  | case4 made left w time after next failed stuck =>
    exact absurd (trial_again_less time failed) stuck

variable (endpoint method channel body) in
theorem call_ends (start : Nat) (begun : W) :
    ∃ n made left w, endpoint.Retried method channel body start begun n made left w ∧
      ((endpoint.call method channel body start begun).1 = .error .cancelled ∨
        ∃ result after next,
          endpoint.trial method channel body (made + 1) left w = .ended result after next ∧
          (endpoint.call method channel body start begun).1 = result) :=
  Retried.begins.ends

theorem call_gaveUp {attempts : UInt32} {reason : String}
    (ended : (endpoint.call method channel body start begun).1 =
      .error (.gaveUp method endpoint.url attempts reason)) :
    endpoint.policy.maxRetries.toNat + 1 < UInt32.size ∧
      attempts.toNat = endpoint.policy.maxRetries.toNat + 1 ∧
      ∃ made left w, endpoint.Retried method channel body start begun
        endpoint.policy.maxRetries.toNat made left w ∧ attempts = made + 1 := by
  obtain ⟨n, made, left, w, retried, cancelled | ⟨result, after, next, final, same⟩⟩ :=
    call_ends endpoint method channel body start begun
  next => simp [cancelled] at ended
  next =>
    rw [ended] at same
    subst same
    cases tried_of final with
    | gaveUp does failed enough =>
      have beyond := mt allows_iff.mpr (Bool.eq_false_iff.mp enough)
      -- The count is one that the policy does not allow, so that there has to be one.
      have bounded : endpoint.policy.maxRetries.toNat + 1 < UInt32.size := by
        have fits := (made + 1).toNat_lt_size
        omega
      have within := (retried.within bounded).2
      have next := retried.counts bounded
      have last : n = endpoint.policy.maxRetries.toNat := by omega
      exact ⟨bounded, by omega, made, left, w, last ▸ retried, rfl⟩

section Failures

variable {vain : W → Prop} (failing : Failing vain)
include failing

theorem Failing.supplied {timeout : Duration} {detail : String} (now : vain w)
    (does : Does timeout (.denied detail) left w after next) : False := by
  cases does with
  | denied refused =>
    obtain ⟨token, other, given, kept⟩ := failing.granted now
    cases refused.symm.trans given

theorem Failing.sent {timeout : Duration} {token : String} {request : Request}
    {outcome : Except String Reply} (now : vain w)
    (does : Does timeout (.sent token request outcome) left w after next) :
    vain next ∧ Failed outcome := by
  cases does with
  | sent granted attempted =>
    obtain ⟨token, other, given, kept⟩ := failing.granted now
    cases granted.symm.trans given
    constructor
    next =>
      have spec : Request.Attempted timeout request left _ (some outcome, after, next) :=
        attempted ▸ Request.attempt_spec ..
      cases spec with
      | broken => exact kept
      | returned => exact failing.stays request kept
    next =>
      rintro reply rfl
      exact failing.refused request kept (Request.attempt_reply attempted)

theorem Failing.retried (early : vain begun)
    (retried : endpoint.Retried method channel body start begun n made left w) : vain w := by
  induction retried with
  | begins => exact early
  | again before time failed ih =>
    cases tried_of failed with
    | again does => exact (failing.sent ih does).1

theorem Failing.ended {result : Except AccessError Reply} (now : vain w)
    (ended : endpoint.trial method channel body made left w = .ended result after next) :
    result = .error .cancelled ∨
      ∃ reason, result = .error (.gaveUp method endpoint.url made reason) := by
  cases tried_of ended with
  | denied does => exact (failing.supplied now does).elim
  | overdue => exact .inl rfl
  | answered does accepted => exact absurd accepted ((failing.sent now does).2 _ rfl)
  | gaveUp => exact .inr ⟨_, rfl⟩
  | interrupted => exact .inl rfl

theorem Failing.again (now : vain w) (more : endpoint.policy.allows made = true)
    (ample : endpoint.span < left) :
    ∃ after next, endpoint.trial method channel body made left w = .again after next ∧
      left ≤ after + endpoint.span := by
  -- Neither the attempt nor the wait can use up more than the span allows for.
  have wait := endpoint.policy.backoff_le (made - 1)
  have tried : Tried endpoint method channel body made left w _ := trial_spec made left w
  generalize endpoint.trial method channel body made left w = came at tried
  rw [span] at *
  cases tried with
  | denied does => exact (failing.supplied now does).elim
  | overdue late => omega
  | answered does accepted => exact absurd accepted ((failing.sent now does).2 _ rfl)
  | gaveUp does failed enough => simp [enough] at more
  | interrupted does more long =>
    have taken := does.within
    omega
  | again does failed more short =>
    have taken := does.within
    exact ⟨_, _, rfl, by omega⟩

theorem Failing.call (early : vain begun) :
    (endpoint.call method channel body start begun).1 = .error .cancelled ∨
      ∃ attempts reason, (endpoint.call method channel body start begun).1 =
        .error (.gaveUp method endpoint.url attempts reason) := by
  obtain ⟨n, made, left, w, retried, cancelled | ⟨result, after, next, final, same⟩⟩ :=
    call_ends endpoint method channel body start begun
  next => exact .inl cancelled
  next =>
    rw [same]
    rcases failing.ended (failing.retried early retried) final with cancelled | ⟨reason, gaveUp⟩
    · exact .inl cancelled
    · exact .inr ⟨_, reason, gaveUp⟩

theorem Failing.reached (early : vain begun)
    (endless : endpoint.policy.maxRetries.toNat + 1 = UInt32.size) (n : Nat)
    (ample : n * endpoint.span < start) :
    ∃ left w, endpoint.Retried method channel body start begun n (UInt32.ofNat n) left w ∧
      start ≤ left + n * endpoint.span := by
  induction n with
  | zero => exact ⟨start, begun, .begins, by omega⟩
  | succ n ih =>
    rw [Nat.succ_mul] at ample ⊢
    obtain ⟨left, w, retried, rest⟩ := ih (by omega)
    -- No count is beyond the largest limit, the one that has started again from 0 neither.
    have more : endpoint.policy.allows (UInt32.ofNat n + 1) = true := by
      have fits := (UInt32.ofNat n + 1).toNat_lt_size
      exact allows_iff.mpr (by omega)
    obtain ⟨after, next, failed, spent⟩ :=
      failing.again (failing.retried early retried) more (show endpoint.span < left by omega)
    refine ⟨after, next, ?_, by omega⟩
    rw [UInt32.ofNat_add]
    exact retried.again (by omega) failed

theorem Failing.cancelled (early : vain begun)
    (endless : endpoint.policy.maxRetries.toNat + 1 = UInt32.size) :
    (endpoint.call method channel body start begun).1 = .error .cancelled := by
  refine (failing.call early).resolve_right ?_
  rintro ⟨attempts, reason, ended⟩
  have bounded := (call_gaveUp ended).1
  omega

theorem Failing.gives_up_iff (early : vain begun) :
    (∀ start, endpoint.allowance < start →
        ∃ attempts reason, (endpoint.call method channel body start begun).1 =
          .error (.gaveUp method endpoint.url attempts reason)) ↔
      endpoint.policy.maxRetries.toNat + 1 < UInt32.size := by
  constructor
  · intro ends
    obtain ⟨attempts, reason, ended⟩ := ends (endpoint.allowance + 1) (Nat.lt_succ_self _)
    exact (call_gaveUp ended).1
  · intro bounded start ample
    exact (failing.call early).resolve_left (call_uncancelled bounded ample)

theorem Failing.overflows_iff (early : vain begun) :
    (∃ start n made left w, endpoint.Retried method channel body start begun n made left w ∧
        made.toNat + 1 = UInt32.size) ↔
      endpoint.policy.maxRetries.toNat + 1 = UInt32.size := by
  have fits : endpoint.policy.maxRetries.toNat + 1 ≤ UInt32.size :=
    endpoint.policy.maxRetries.toNat_lt_size
  constructor
  · rintro ⟨start, n, made, left, w, retried, full⟩
    refine (Nat.eq_or_lt_of_le fits).resolve_right fun bounded => ?_
    obtain ⟨counted, within⟩ := retried.within bounded
    omega
  · intro endless
    obtain ⟨left, w, retried, rest⟩ :=
      failing.reached early endless endpoint.policy.maxRetries.toNat (Nat.lt_succ_self _)
    refine ⟨_, _, _, left, w, retried, ?_⟩
    rw [UInt32.toNat_ofNat', Nat.mod_eq_of_lt fits, endless]

end Failures

/-- While a call fails, its counter is the number of its failed attempts modulo 2^32. -/
theorem count_holds_below_largest_limit (endpoint : Endpoint) (method : Method) (channel : String)
    (body : Option Json) :
    let limit := endpoint.policy.maxRetries.toNat
    (∀ (start : Nat) (begun : W) n made left w,
        endpoint.Retried method channel body start begun n made left w →
          made.toNat = n % UInt32.size ∧
            (limit + 1 < UInt32.size →
              n ≤ limit ∧ made.toNat + 1 < UInt32.size ∧ (made + 1).toNat = n + 1 ∧
                (made + 1 - 1).toNat = n)) ∧
      (∀ (start : Nat) (begun : W) attempts reason,
        (endpoint.call method channel body start begun).1 =
            .error (.gaveUp method endpoint.url attempts reason) →
          attempts.toNat = limit + 1 ∧
            ∃ made left w, endpoint.Retried method channel body start begun limit made left w ∧
              attempts = made + 1) ∧
      ∀ vain : W → Prop, Failing vain → ∀ begun, vain begun →
        ((∀ start, endpoint.allowance < start →
            ∃ attempts reason, (endpoint.call method channel body start begun).1 =
              .error (.gaveUp method endpoint.url attempts reason)) ↔
          limit + 1 < UInt32.size) ∧
        ((∃ start n made left w, endpoint.Retried method channel body start begun n made left w ∧
            made.toNat + 1 = UInt32.size) ↔
          limit + 1 = UInt32.size) ∧
        (limit + 1 = UInt32.size →
          ∀ start, (endpoint.call method channel body start begun).1 = .error .cancelled) := by
  intro limit
  refine ⟨?_, ?_, ?_⟩
  next =>
    intro start begun n made left w retried
    refine ⟨by rw [retried.counter, UInt32.toNat_ofNat'], fun bounded => ?_⟩
    obtain ⟨counted, within⟩ := retried.within bounded
    refine ⟨within, by omega, retried.counts bounded, ?_⟩
    rw [UInt32.add_sub_cancel, counted]
  next =>
    intro start begun attempts reason ended
    exact (call_gaveUp ended).2
  next =>
    intro vain failing begun early
    exact ⟨failing.gives_up_iff early, failing.overflows_iff early,
      fun endless start => failing.cancelled early endless⟩

section Offline

theorem failing_unreachable {token : String} (given : token ≠ "") :
    Failing fun w : Unreachable => w.token = some token where
  granted {w} now := ⟨token, w, by simp [Network.token, now, staticToken, given], now⟩
  refused request _ _ now came := by simp [Network.send] at came
  stays request _ now := now

def offline : Unreachable := { token := some "t0k" }

theorem offline_desk_gives_up :
    Failing (fun w : Unreachable => w.token = some "t0k") ∧ offline.token = some "t0k" ∧
      ∃ attempts reason, (desk.call .get "c1" none 5000000000 offline).1 =
        .error (.gaveUp .get desk.url attempts reason) ∧ attempts.toNat = 2 := by
  have failing := failing_unreachable (show "t0k" ≠ "" by decide)
  obtain ⟨-, counted, ends⟩ :=
    @count_holds_below_largest_limit Unreachable _ desk .get "c1" none
  obtain ⟨given, -, -⟩ := ends _ failing offline rfl
  obtain ⟨attempts, reason, ended⟩ := given.mpr (by decide) 5000000000 (by decide)
  exact ⟨failing, rfl, attempts, reason, ended, (counted _ _ _ _ ended).1⟩

def stubborn : Endpoint :=
  { desk with policy := { desk.policy with maxRetries := 4294967295 } }

/-- After its last retry the counter overflows, and the call goes on from 0. -/
theorem stubborn_desk_loses_count :
    (∃ start left w, stubborn.Retried .get "c1" none start offline
        stubborn.policy.maxRetries.toNat 4294967295 left w) ∧
      (∃ start left w, stubborn.Retried .get "c1" none start offline
        (stubborn.policy.maxRetries.toNat + 1) 0 left w) ∧
      ∀ start attempts reason, (stubborn.call .get "c1" none start offline).1 ≠
        .error (.gaveUp .get stubborn.url attempts reason) := by
  have failing := failing_unreachable (show "t0k" ≠ "" by decide)
  have endless : stubborn.policy.maxRetries.toNat + 1 = UInt32.size := rfl
  refine ⟨?_, ?_, ?_⟩
  · obtain ⟨left, w, retried, -⟩ := failing.reached (show offline.token = _ from rfl) endless
      stubborn.policy.maxRetries.toNat (Nat.lt_succ_self _)
    exact ⟨_, left, w, retried⟩
  · obtain ⟨left, w, retried, -⟩ := failing.reached (show offline.token = _ from rfl) endless
      (stubborn.policy.maxRetries.toNat + 1) (Nat.lt_succ_self _)
    exact ⟨_, left, w, retried⟩
  · intro start attempts reason ended
    exact absurd (call_gaveUp ended).1 (by decide)

end Offline

end Counting

end Endpoint

end TicketReports
