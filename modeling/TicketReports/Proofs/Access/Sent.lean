import TicketReports.Proofs.Access.Attempts

set_option autoImplicit false

namespace TicketReports

/-- A record that a network keeps of the requests that reach it. -/
structure Network.IsLog {W : Type} [Network W] (log : W → List Request) : Prop where
  silent : ∀ w, log (Network.token w).2 = log w
  sends : ∀ request w, log (Network.send request w).2 = log w ++ [request]

namespace Endpoint

variable {W : Type} [Network W]

def Trial.net : Trial W → W
  | .ended _ _ w => w
  | .again _ w => w

section Trials

variable {endpoint : Endpoint} {method : Method} {channel : String} {body : Option Json}
  {made : UInt32} {left after : Nat} {w next : W} {reply : Reply}

omit [Network W] in
theorem afterFailure_net {reason : String} :
    (endpoint.afterFailure method made reason left w).net = w := by
  unfold afterFailure
  split
  next =>
    dsimp only
    split <;> rfl
  next => rfl

theorem trial_denied_net {detail : String} (refused : Network.token w = (.error detail, next)) :
    (endpoint.trial method channel body made left w).net = next := by
  rw [trial, refused]
  rfl

theorem trial_granted_net {token : String} (granted : Network.token w = (.ok token, next)) :
    (endpoint.trial method channel body made left w).net =
      ((endpoint.request method channel body token).attempt endpoint.timeout left next).2.2 := by
  rw [trial, granted]
  dsimp only
  split
  next attempted => rw [attempted]; rfl
  next attempted =>
    rw [attempted]
    split
    next => rfl
    next => exact afterFailure_net
  next attempted => rw [attempted]; exact afterFailure_net

theorem trial_answered
    (answered : endpoint.trial method channel body made left w = .ended (.ok reply) after next) :
    ∃ token between, Network.token w = (.ok token, between) ∧ reply.status = 200 ∧
      (endpoint.request method channel body token).attempt endpoint.timeout left between =
        (some (.ok reply), after, next) := by
  cases tried_of answered with
  | answered does accepted =>
    cases does with
    | sent granted attempted => exact ⟨_, _, granted, accepted, attempted⟩

theorem callFrom_answered
    (answered : endpoint.callFrom method channel body made left w = (.ok reply, after, next)) :
    reply.status = 200 ∧ ∃ (token : String) (before : W),
      (Network.send (endpoint.request method channel body token) before).1.reply = some reply := by
  fun_induction callFrom endpoint method channel body made left w with
  | case1 => cases answered
  | case2 made left w time result rest last ended =>
    cases answered
    obtain ⟨token, between, -, accepted, attempted⟩ := trial_answered ended
    exact ⟨accepted, token, between, Request.attempt_reply attempted⟩
  | case3 made left w time rest last again less ih => exact ih answered
  | case4 => cases answered

end Trials

def Own (endpoint : Endpoint) (method : Method) (channel : String) (body : Option Json)
    (requests : List Request) : Prop :=
  ∀ request ∈ requests, ∃ token, request = endpoint.request method channel body token

section Logged

variable {log : W → List Request} (kept : Network.IsLog log) (endpoint : Endpoint)
  (method : Method) (channel : String) (body : Option Json)
include kept

theorem trial_sends (made : UInt32) (left : Nat) (w : W) :
    ∃ requests, endpoint.Own method channel body requests ∧
      log (endpoint.trial method channel body made left w).net = log w ++ requests ∧
      ∀ reply after next,
        endpoint.trial method channel body made left w = .ended (.ok reply) after next →
          requests ≠ [] := by
  have same := kept.silent w
  match granted : Network.token w with
  | (.error detail, between) =>
    rw [granted] at same
    rw [trial_denied_net granted]
    refine ⟨[], nofun, by simpa using same, fun reply after next answered => ?_⟩
    obtain ⟨token, other, given, -⟩ := trial_answered answered
    cases granted.symm.trans given
  | (.ok token, between) =>
    rw [granted] at same
    rw [trial_granted_net granted]
    let request := endpoint.request method channel body token
    have grown := Request.attempt_sends log kept.sends endpoint.timeout request left between
    rw [same] at grown
    refine ⟨[request].filter Request.isWhole, fun one member => ?_, grown, ?_⟩
    · exact ⟨token, List.mem_singleton.mp (List.mem_filter.mp member).1⟩
    · intro reply after next answered none
      obtain ⟨other, world, given, -, attempted⟩ := trial_answered answered
      cases granted.symm.trans given
      -- A request that cannot be put together gets no reply.
      have spec := Request.attempt_spec endpoint.timeout request left between
      rw [attempted] at spec
      cases spec with
      | returned outcome address => simp [Request.isWhole, address, Except.toOption] at none

theorem callFrom_sends (made : UInt32) (left : Nat) (w : W) :
    ∃ requests, endpoint.Own method channel body requests ∧
      log (endpoint.callFrom method channel body made left w).2.2 = log w ++ requests ∧
      ∀ reply, (endpoint.callFrom method channel body made left w).1 = .ok reply →
        requests ≠ [] := by
  fun_induction callFrom endpoint method channel body made left w with
  | case1 =>
    refine ⟨[], fun _ member => absurd member List.not_mem_nil, (List.append_nil _).symm, ?_⟩
    intro reply answered
    cases answered
  | case2 made left w time result after next ended =>
    obtain ⟨requests, own, grown, some⟩ := trial_sends kept endpoint method channel body _ left w
    rw [ended] at grown
    refine ⟨requests, own, grown, fun reply answered => ?_⟩
    cases answered
    exact some reply after next ended
  | case3 made left w time after next again less ih =>
    obtain ⟨first, own, grown, -⟩ := trial_sends kept endpoint method channel body _ left w
    obtain ⟨later, others, rest, some⟩ := ih
    rw [again] at grown
    refine ⟨first ++ later, List.forall_mem_append.mpr ⟨own, others⟩, ?_, ?_⟩
    · exact rest.trans (by rw [show log next = log w ++ first from grown, List.append_assoc])
    · exact fun reply answered none => some reply answered (List.append_eq_nil_iff.mp none).2
  | case4 made left w time after next again stuck =>
    obtain ⟨requests, own, grown, -⟩ := trial_sends kept endpoint method channel body _ left w
    rw [again] at grown
    refine ⟨requests, own, grown, fun reply answered => ?_⟩
    cases answered

end Logged

end Endpoint

end TicketReports
