import TicketReports.Access.Call

set_option autoImplicit false

namespace TicketReports

theorem Endpoint.afterFailure_unanswered {W : Type} {endpoint : Endpoint} {method : Method}
    {made : UInt32} {reason : String} {left after : Nat} {w next : W} {reply : Reply}
    (answered : endpoint.afterFailure method made reason left w = .ended (.ok reply) after next) :
    False := by
  unfold afterFailure at answered
  split at answered
  next =>
    dsimp only at answered
    split at answered
    next => cases answered
    next => cases answered
  next => cases answered

section Costs

variable {W : Type} [Network W] {left after : Nat} {w next : W} {reply : Reply}

namespace Request

inductive Attempted (timeout : Duration) (request : Request) (left : Nat) (w : W) :
    Option (Except String Reply) × Nat × W → Prop
  | broken {reason : String} (address : request.address = .error reason) :
      Attempted timeout request left w (some (.error reason), left - 1, w)
  | overdue {url : Url} {took : Nat} (address : request.address = .ok url)
      (limited : took ≤ timeout.nanos) (late : left < took) :
      Attempted timeout request left w (none, 0, (Network.send request w).2)
  | returned {url : Url} {took : Nat} (outcome : Except String Reply)
      (address : request.address = .ok url) (limited : took ≤ timeout.nanos)
      (timely : took ≤ left) :
      Attempted timeout request left w (some outcome, left - (took + 1), (Network.send request w).2)

theorem attempt_spec (timeout : Duration) (request : Request) (left : Nat) (w : W) :
    Attempted timeout request left w (request.attempt timeout left w) := by
  unfold attempt
  split
  next reason address => exact .broken address
  next url address =>
    have limited := Nat.min_le_right (Network.send request w).1.took timeout.nanos
    dsimp only
    split
    next late => exact .overdue address limited late
    next timely => exact .returned _ address limited (Nat.le_of_not_lt timely)

theorem attempt_costs {timeout : Duration} {request : Request} {outcome : Except String Reply}
    (attempted : request.attempt timeout left w = (some outcome, after, next))
    (time : left ≠ 0) : after < left := by
  have spec := attempt_spec timeout request left w
  rw [attempted] at spec
  cases spec <;> omega

end Request

namespace Endpoint

variable {endpoint : Endpoint} {method : Method} {channel : String} {body : Option Json}
  {made : UInt32}

theorem trial_costs
    (answered : endpoint.trial method channel body made left w = .ended (.ok reply) after next)
    (time : left ≠ 0) : after < left := by
  unfold trial at answered
  split at answered
  next => cases answered
  next =>
    split at answered
    next => cases answered
    next attempted =>
      split at answered
      next => cases answered; exact Request.attempt_costs attempted time
      next => exact (afterFailure_unanswered answered).elim
    next => exact (afterFailure_unanswered answered).elim

theorem callFrom_costs
    (answered : endpoint.callFrom method channel body made left w = (.ok reply, after, next)) :
    after < left := by
  fun_induction callFrom endpoint method channel body made left w with
  | case1 => cases answered
  | case2 made left w time result rest last ended =>
    cases answered
    exact trial_costs ended time
  | case3 made left w time rest last again less ih => exact Nat.lt_trans (ih answered) less
  | case4 => cases answered

end Endpoint

end Costs

end TicketReports
