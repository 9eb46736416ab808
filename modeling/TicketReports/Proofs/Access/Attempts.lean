import TicketReports.Proofs.Access.Backoff
import TicketReports.Proofs.Access.Call

set_option autoImplicit false

namespace TicketReports

/-- One thing that a call does. -/
inductive Deed where
  | denied (detail : String)
  | sent (token : String) (request : Request) (outcome : Except String Reply)
  | waited (nanos : Nat)

namespace Deed

def request? : Deed → Option Request
  | .sent _ request _ => some request
  | _ => none

def wait? : Deed → Option Nat
  | .waited nanos => some nanos
  | _ => none

def requests (deeds : List Deed) : List Request := deeds.filterMap request?

def waits (deeds : List Deed) : List Nat := deeds.filterMap wait?

section Listed

variable (detail token : String) (request : Request) (outcome : Except String Reply) (nanos : Nat)
  (deeds : List Deed)

@[simp] theorem requests_nil : requests [] = [] := rfl

@[simp] theorem waits_nil : waits [] = [] := rfl

theorem waits_append (first later : List Deed) :
    waits (first ++ later) = waits first ++ waits later :=
  List.filterMap_append

@[simp] theorem requests_denied : requests (.denied detail :: deeds) = requests deeds := rfl

@[simp] theorem requests_sent :
    requests (.sent token request outcome :: deeds) = request :: requests deeds := rfl

@[simp] theorem requests_waited : requests (.waited nanos :: deeds) = requests deeds := rfl

@[simp] theorem waits_sent : waits (.sent token request outcome :: deeds) = waits deeds := rfl

@[simp] theorem waits_waited : waits (.waited nanos :: deeds) = nanos :: waits deeds := rfl

end Listed

variable {W : Type} [Network W]

inductive Does (timeout : Duration) : Deed → Nat → W → Nat → W → Prop
  | denied {left : Nat} {w next : W} {detail : String}
      (refused : Network.token w = (.error detail, next)) :
      Does timeout (.denied detail) left w left next
  | sent {left after : Nat} {w between next : W} {token : String} {request : Request}
      {outcome : Except String Reply} (granted : Network.token w = (.ok token, between))
      (attempted : request.attempt timeout left between = (some outcome, after, next)) :
      Does timeout (.sent token request outcome) left w after next
  | waited {left nanos : Nat} {w : W} (short : nanos < left) :
      Does timeout (.waited nanos) left w (left - nanos) w

inductive Done (timeout : Duration) : List Deed → Nat → W → Nat → W → Prop
  | nothing (left : Nat) (w : W) : Done timeout [] left w left w
  | next {deed : Deed} {later : List Deed} {left after last : Nat} {w between final : W}
      (first : Does timeout deed left w after between)
      (rest : Done timeout later after between last final) :
      Done timeout (deed :: later) left w last final

theorem Does.alone {timeout : Duration} {deed : Deed} {left after : Nat} {w next : W}
    (does : Does timeout deed left w after next) : Done timeout [deed] left w after next :=
  .next does (.nothing after next)

end Deed

def Request.isWhole (request : Request) : Bool := request.address.toOption.isSome

section Traffic

variable {W : Type} [Network W] {timeout : Duration} {left after : Nat} {w next : W}

theorem Request.attempt_within {request : Request} {outcome : Except String Reply}
    (attempted : request.attempt timeout left w = (some outcome, after, next)) :
    left ≤ after + (timeout.nanos + 1) := by
  have spec := attempt_spec timeout request left w
  rw [attempted] at spec
  cases spec <;> omega

theorem Request.attempt_overdue {request : Request}
    (attempted : request.attempt timeout left w = (none, after, next)) : left < timeout.nanos := by
  have spec := attempt_spec timeout request left w
  rw [attempted] at spec
  cases spec
  omega

theorem Request.attempt_reply {request : Request} {reply : Reply}
    (attempted : request.attempt timeout left w = (some (.ok reply), after, next)) :
    (Network.send request w).1.reply = some reply := by
  unfold attempt at attempted
  split at attempted
  next => cases attempted
  next =>
    dsimp only at attempted
    split at attempted
    next => cases attempted
    next =>
      split at attempted
      next given came =>
        split at attempted
        next => cases attempted; exact came
        next => cases attempted
      next => cases attempted

theorem Deed.Does.within {token : String} {request : Request} {outcome : Except String Reply}
    (does : Does timeout (.sent token request outcome) left w after next) :
    left ≤ after + (timeout.nanos + 1) := by
  cases does with
  | sent granted attempted => exact Request.attempt_within attempted

theorem Deed.Does.costs {token : String} {request : Request} {outcome : Except String Reply}
    (does : Does timeout (.sent token request outcome) left w after next) (time : left ≠ 0) :
    after < left := by
  cases does with
  | sent granted attempted => exact Request.attempt_costs attempted time

variable (log : W → List Request) (silent : ∀ w, log (Network.token w).2 = log w)
  (sends : ∀ request w, log (Network.send request w).2 = log w ++ [request])
include sends

theorem Request.attempt_sends (timeout : Duration) (request : Request) (left : Nat) (w : W) :
    log (request.attempt timeout left w).2.2 = log w ++ [request].filter isWhole := by
  have spec := attempt_spec timeout request left w
  generalize request.attempt timeout left w = attempted at spec
  cases spec with
  | broken address => simp [isWhole, address, Except.toOption]
  | overdue address => simp [isWhole, address, Except.toOption, sends]
  | returned outcome address => simp [isWhole, address, Except.toOption, sends]

theorem Request.attempt_logged {request : Request} {outcome : Except String Reply}
    (attempted : request.attempt timeout left w = (some outcome, after, next)) :
    log next = log w ++ [request].filter isWhole := by
  have grown := attempt_sends log sends timeout request left w
  rwa [attempted] at grown

include silent

theorem Deed.Does.logged {deed : Deed} (does : Does timeout deed left w after next) :
    log next = log w ++ (requests [deed]).filter Request.isWhole := by
  cases does with
  | denied refused =>
    have same := silent w
    rw [refused] at same
    simpa using same
  | sent granted attempted =>
    have same := silent w
    rw [granted] at same
    have grown := Request.attempt_logged log sends attempted
    rw [same] at grown
    simpa using grown
  | waited => simp

theorem Deed.Done.logged {deeds : List Deed} (done : Done timeout deeds left w after next) :
    log next = log w ++ (requests deeds).filter Request.isWhole := by
  induction done with
  | nothing left w => simp [requests]
  | next first rest ih =>
    rw [ih, first.logged log silent sends]
    simp [requests, ← List.filter_append, ← List.filterMap_append]

end Traffic

namespace Endpoint

def Failed (outcome : Except String Reply) : Prop :=
  ∀ reply, outcome = .ok reply → reply.status ≠ 200

def reason : Except String Reply → String
  | .error reason => reason
  | .ok reply => unexpected reply

open Deed

section Calls

variable {W : Type} [Network W] (endpoint : Endpoint) (method : Method) (channel : String)
  (body : Option Json)

inductive Tried (made : UInt32) (left : Nat) (w : W) : Trial W → Prop
  | denied {detail : String} {next : W}
      (does : Does endpoint.timeout (.denied detail) left w left next) :
      Tried made left w (.ended (.error (.token detail)) left next)
  | overdue {after : Nat} {next : W} (late : left < endpoint.timeout.nanos) :
      Tried made left w (.ended (.error .cancelled) after next)
  | answered {token : String} {reply : Reply} {after : Nat} {next : W}
      (does : Does endpoint.timeout
        (.sent token (endpoint.request method channel body token) (.ok reply)) left w after next)
      (accepted : reply.status = 200) : Tried made left w (.ended (.ok reply) after next)
  | gaveUp {token : String} {outcome : Except String Reply} {after : Nat} {next : W}
      (does : Does endpoint.timeout
        (.sent token (endpoint.request method channel body token) outcome) left w after next)
      (failed : Failed outcome) (enough : endpoint.policy.allows made = false) :
      Tried made left w
        (.ended (.error (.gaveUp method endpoint.url made (reason outcome))) after next)
  | interrupted {token : String} {outcome : Except String Reply} {after : Nat} {next : W}
      (does : Does endpoint.timeout
        (.sent token (endpoint.request method channel body token) outcome) left w after next)
      (more : endpoint.policy.allows made = true)
      (long : after ≤ (endpoint.policy.backoff (made - 1)).nanos) :
      Tried made left w (.ended (.error .cancelled) 0 next)
  | again {token : String} {outcome : Except String Reply} {after : Nat} {next : W}
      (does : Does endpoint.timeout
        (.sent token (endpoint.request method channel body token) outcome) left w after next)
      (failed : Failed outcome) (more : endpoint.policy.allows made = true)
      (short : (endpoint.policy.backoff (made - 1)).nanos < after) :
      Tried made left w (.again (after - (endpoint.policy.backoff (made - 1)).nanos) next)

variable {endpoint method channel body}

theorem tried_failure {made : UInt32} {left after : Nat} {w next : W} {token : String}
    {outcome : Except String Reply}
    (does : Does endpoint.timeout
      (.sent token (endpoint.request method channel body token) outcome) left w after next)
    (failed : Failed outcome) :
    Tried endpoint method channel body made left w
      (endpoint.afterFailure method made (reason outcome) after next) := by
  unfold afterFailure
  split
  next more =>
    dsimp only
    split
    next long => exact .interrupted does more long
    next short => exact .again does failed more (Nat.lt_of_not_le short)
  next enough => exact .gaveUp does failed (Bool.eq_false_iff.mpr enough)

theorem trial_spec (made : UInt32) (left : Nat) (w : W) :
    Tried endpoint method channel body made left w
      (endpoint.trial method channel body made left w) := by
  unfold trial
  split
  next detail next refused => exact .denied (.denied refused)
  next token between granted =>
    split
    next attempted => exact .overdue (Request.attempt_overdue attempted)
    next reply after next attempted =>
      have does := Does.sent granted attempted
      split
      next accepted => exact .answered does accepted
      next other =>
        refine tried_failure does fun given same => ?_
        cases same
        exact other
    next cause after next attempted => exact tried_failure (.sent granted attempted) nofun

theorem tried_of {made : UInt32} {left : Nat} {w : W} {came : Trial W}
    (tried : endpoint.trial method channel body made left w = came) :
    Tried endpoint method channel body made left w came :=
  tried ▸ trial_spec made left w

variable (endpoint method channel body)

/-- Attempts in vain after `made` others, each with the wait that follows it. -/
def repeated : UInt32 → List (String × Except String Reply) → List Deed
  | _, [] => []
  | made, (token, outcome) :: later =>
    .sent token (endpoint.request method channel body token) outcome ::
      .waited (endpoint.policy.backoff made).nanos :: repeated (made + 1) later

inductive Concludes (failures : Nat) : Deed → Except AccessError Reply → Prop
  | denied {detail : String} : Concludes failures (.denied detail) (.error (.token detail))
  | answered {token : String} {reply : Reply} (accepted : reply.status = 200) :
      Concludes failures (.sent token (endpoint.request method channel body token) (.ok reply))
        (.ok reply)
  | gaveUp {token : String} {outcome : Except String Reply} {attempts : UInt32}
      (failed : Failed outcome) (final : failures = endpoint.policy.maxRetries.toNat)
      (count : attempts.toNat = failures + 1) :
      Concludes failures (.sent token (endpoint.request method channel body token) outcome)
        (.error (.gaveUp method endpoint.url attempts (reason outcome)))

/-- The course of a call after `made` attempts. -/
structure Course (made : UInt32) (left : Nat) (w : W) (came : Except AccessError Reply × Nat × W)
    (failures : List (String × Except String Reply)) (last : Deed) : Prop where
  done : Done endpoint.timeout (endpoint.repeated method channel body made failures ++ [last])
    left w came.2.1 came.2.2
  failed : ∀ failure ∈ failures, Failed failure.2
  allowed : made.toNat + failures.length ≤ endpoint.policy.maxRetries.toNat
  concludes : endpoint.Concludes method channel body (made.toNat + failures.length) last came.1

variable {endpoint method channel body}

theorem toNat_next {made : UInt32} (fits : made.toNat + 1 < UInt32.size) :
    (made + 1).toNat = made.toNat + 1 := by
  rw [UInt32.toNat_add]
  exact Nat.mod_eq_of_lt fits

theorem allows_iff {made : UInt32} :
    endpoint.policy.allows made = true ↔ made.toNat ≤ endpoint.policy.maxRetries.toNat := by
  simp [RetryPolicy.allows, UInt32.le_iff_toNat_le]

variable (bounded : endpoint.policy.maxRetries.toNat + 1 < UInt32.size)
include bounded

theorem callFrom_course {made : UInt32} {left : Nat} {w : W}
    (within : made.toNat ≤ endpoint.policy.maxRetries.toNat)
    (uncancelled : (endpoint.callFrom method channel body made left w).1 ≠ .error .cancelled) :
    ∃ failures last, endpoint.Course method channel body made left w
      (endpoint.callFrom method channel body made left w) failures last := by
  fun_induction callFrom endpoint method channel body made left w with
  | case1 => exact absurd rfl uncancelled
  | case2 made left w time result after final ended =>
    cases tried_of ended with
    | denied does => exact ⟨[], _, does.alone, by simp, within, .denied⟩
    | overdue => exact absurd rfl uncancelled
    | answered does accepted => exact ⟨[], _, does.alone, by simp, within, .answered accepted⟩
    | gaveUp does failed enough =>
      have next := toNat_next (Nat.lt_of_le_of_lt (Nat.succ_le_succ within) bounded)
      have beyond := mt allows_iff.mpr (Bool.eq_false_iff.mp enough)
      refine ⟨[], _, does.alone, by simp, within, .gaveUp failed ?_ next⟩
      simp only [List.length_nil]
      omega
    | interrupted => exact absurd rfl uncancelled
  | case3 made left w time after next again less ih =>
    cases tried_of again with
    | @again token outcome after next does failed more short =>
      obtain ⟨failures, last, course⟩ := ih (allows_iff.mp more) uncancelled
      have next := toNat_next (Nat.lt_of_le_of_lt (Nat.succ_le_succ within) bounded)
      rw [UInt32.add_sub_cancel] at *
      have done := Done.next does (.next (.waited short) course.done)
      refine ⟨(token, outcome) :: failures, last, done, ?_, ?_, ?_⟩
      · exact List.forall_mem_cons.mpr ⟨failed, course.failed⟩
      · have allowed := course.allowed
        simp only [List.length_cons]
        omega
      · have concludes := course.concludes
        rwa [next, Nat.add_right_comm] at concludes
  | case4 made left w time after next again stuck =>
    -- No attempt is free, so that there is less time left after it.
    cases tried_of again with
    | again does => exact absurd (does.costs time) (by omega)

def span (endpoint : Endpoint) : Nat := endpoint.timeout.nanos + 1 + endpoint.policy.waitMax.nanos

theorem callFrom_uncancelled {made : UInt32} {left : Nat} {w : W}
    (within : made.toNat ≤ endpoint.policy.maxRetries.toNat)
    (ample : (endpoint.policy.maxRetries.toNat - made.toNat + 1) * endpoint.span < left) :
    (endpoint.callFrom method channel body made left w).1 ≠ .error .cancelled := by
  rw [Nat.succ_mul, span] at ample
  fun_induction callFrom endpoint method channel body made left w with
  | case1 => omega
  | case2 made left w time result after final ended =>
    cases tried_of ended with
    | denied | answered | gaveUp => simp
    | overdue late => omega
    | interrupted does more long =>
      have taken := does.within
      have wait := endpoint.policy.backoff_le (made + 1 - 1)
      omega
  | case3 made left w time after next again less ih =>
    cases tried_of again with
    | again does failed more short =>
      have taken := does.within
      have wait := endpoint.policy.backoff_le (made + 1 - 1)
      have next := toNat_next (Nat.lt_of_le_of_lt (Nat.succ_le_succ within) bounded)
      have allowed := allows_iff.mp more
      have one : endpoint.policy.maxRetries.toNat - made.toNat =
          endpoint.policy.maxRetries.toNat - (made + 1).toNat + 1 := by omega
      rw [one, Nat.succ_mul] at ample
      exact ih allowed (by omega)
  | case4 made left w time after next again stuck =>
    cases tried_of again with
    | again does => exact absurd (does.costs time) (by omega)

theorem callFrom_within {made : UInt32} {left : Nat} {w : W}
    (within : made.toNat ≤ endpoint.policy.maxRetries.toNat)
    (uncancelled : (endpoint.callFrom method channel body made left w).1 ≠ .error .cancelled) :
    left ≤ (endpoint.callFrom method channel body made left w).2.1 +
      (endpoint.policy.maxRetries.toNat - made.toNat + 1) * endpoint.span := by
  rw [Nat.succ_mul]
  fun_induction callFrom endpoint method channel body made left w with
  | case1 => exact absurd rfl uncancelled
  | case2 made left w time result after final ended =>
    cases tried_of ended with
    | denied => exact Nat.le_add_right _ _
    | overdue => exact absurd rfl uncancelled
    | answered does | gaveUp does =>
      have taken := does.within
      dsimp only [span]
      omega
    | interrupted => exact absurd rfl uncancelled
  | case3 made left w time after next again less ih =>
    cases tried_of again with
    | again does failed more short =>
      have taken := does.within
      have wait := endpoint.policy.backoff_le (made + 1 - 1)
      have next := toNat_next (Nat.lt_of_le_of_lt (Nat.succ_le_succ within) bounded)
      have allowed := allows_iff.mp more
      have one : endpoint.policy.maxRetries.toNat - made.toNat =
          endpoint.policy.maxRetries.toNat - (made + 1).toNat + 1 := by omega
      have rest := ih allowed uncancelled
      rw [one, Nat.succ_mul]
      rw [span] at *
      omega
  | case4 => exact absurd rfl uncancelled

def allowance (endpoint : Endpoint) : Nat :=
  (endpoint.policy.maxRetries.toNat + 1) * endpoint.span

theorem call_uncancelled {left : Nat} {w : W} (ample : endpoint.allowance < left) :
    (endpoint.call method channel body left w).1 ≠ .error .cancelled :=
  callFrom_uncancelled bounded (Nat.zero_le _) ample

theorem call_within {left : Nat} {w : W}
    (uncancelled : (endpoint.call method channel body left w).1 ≠ .error .cancelled) :
    left ≤ (endpoint.call method channel body left w).2.1 + endpoint.allowance :=
  callFrom_within bounded (Nat.zero_le _) uncancelled

end Calls

section Listed

variable {endpoint : Endpoint} {method : Method} {channel : String} {body : Option Json}
  {made : UInt32} {failures : List (String × Except String Reply)}

theorem waits_repeated_le :
    ∀ wait ∈ waits (endpoint.repeated method channel body made failures),
      wait ≤ endpoint.policy.waitMax.nanos := by
  induction failures generalizing made with
  | nil => simp [repeated]
  | cons failure later ih =>
    simp only [repeated, waits_sent, waits_waited, List.forall_mem_cons]
    exact ⟨endpoint.policy.backoff_le made, ih⟩

theorem waits_repeated_increasing {bound : Nat}
    (low : bound ≤ (endpoint.policy.backoff made).nanos)
    (fits : made.toNat + failures.length < UInt32.size) :
    (bound :: waits (endpoint.repeated method channel body made failures)).Pairwise (· ≤ ·) := by
  induction failures generalizing made bound with
  | nil => simp [repeated]
  | cons failure later ih =>
    simp only [List.length_cons] at fits
    have next : (made + 1).toNat = made.toNat + 1 := toNat_next (by omega)
    have longer : (endpoint.policy.backoff made).nanos ≤
        (endpoint.policy.backoff (made + 1)).nanos :=
      endpoint.policy.backoff_mono (UInt32.le_iff_toNat_le.mpr (by omega))
    have above := ih (Nat.le_trans low longer) (by omega)
    have rest := ih longer (by omega)
    simp only [repeated, waits_sent, waits_waited]
    exact .cons (List.forall_mem_cons.mpr ⟨low, (List.pairwise_cons.mp above).1⟩) rest

theorem sent_repeated {token : String} {request : Request} {outcome : Except String Reply}
    (member : .sent token request outcome ∈
      endpoint.repeated method channel body made failures) :
    request = endpoint.request method channel body token := by
  induction failures generalizing made with
  | nil => simp [repeated] at member
  | cons failure later ih =>
    simp only [repeated, List.mem_cons, sent.injEq, reduceCtorEq, false_or] at member
    rcases member with ⟨rfl, rfl, -⟩ | later
    · rfl
    · exact ih later

namespace Concludes

variable {count : Nat} {last : Deed} {result : Except AccessError Reply}
  (concludes : endpoint.Concludes method channel body count last result)
include concludes

theorem waits_last : waits [last] = [] := by
  cases concludes <;> rfl

theorem sent_last {token : String} {request : Request} {outcome : Except String Reply}
    (sent : .sent token request outcome = last) :
    request = endpoint.request method channel body token := by
  cases concludes with
  | denied => cases sent
  | answered | gaveUp => cases sent; rfl

end Concludes

end Listed

section Headers

variable (endpoint : Endpoint) (method : Method) (channel : String) (body : Option Json)
  (token value : String)

theorem bearer_header :
    ("authorization", value) ∈ (endpoint.request method channel body token).headers ↔
      value = "Bearer " ++ token := by
  unfold request
  split <;> simp [tenantHeader]

theorem tenant_header :
    (tenantHeader, value) ∈ (endpoint.request method channel body token).headers ↔
      channel ≠ "" ∧ value = channel := by
  unfold request
  split <;> simp_all [tenantHeader]

end Headers

section Waking

structure Waking where
  met : List Request := []

instance : Network Waking where
  token w := (.ok "t0k", w)
  send request w :=
    let status := if w.met.isEmpty then 500 else 200
    ({ took := 5, reply := some { status, body := ⟨[], false⟩ } }, { met := w.met ++ [request] })

def desk : Endpoint :=
  { url := "http://desk.example/"
    policy := { waitMin := .ofMillis 10, waitMax := .ofMillis 50, maxRetries := 1 }
    timeout := .ofSeconds 1 }

end Waking

end Endpoint

end TicketReports
