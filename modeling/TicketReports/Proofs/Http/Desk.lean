import TicketReports.Proofs.Http.Routes
import TicketReports.Proofs.Processor.Chronicle

set_option autoImplicit false

namespace TicketReports

theorem Processor.step_rejected {σ W : Type} [JobStore σ] [Stages W] (p : Processor σ W)
    (event : Event) : (p.step event).1.counters.rejected = p.counters.rejected := by
  have move := p.step_spec event
  generalize (p.step event).1 = q, (p.step event).2 = notes at move
  cases move with
  | worked away now q notes turn =>
    cases turn with
    | advanced run q notes running advance => cases advance <;> rfl
    | _ => rfl
  | _ => rfl

namespace Http

structure Post where
  fresh : JobId
  now : Timestamp
  stage : Submission

namespace Post

def answer? (address : String) (post : Post) : Option Response :=
  match post.stage with
  | .ended ends => some (verdict address (.ended ends))
  | _ => none

def puttingOff (post : Post) : Bool :=
  match post.stage with
  | .loading _ _ => true
  | .saving _ _ _ => true
  | _ => false

def isRefused (post : Post) : Bool := post.stage.refused?.isSome

theorem counted_once (address : String) (post : Post) :
    (if post.isRefused then 1 else 0) =
      (post.answer? address).toList.countP (fun answer => answer.status == 429) +
        if post.puttingOff then 1 else 0 := by
  obtain ⟨fresh, now, stage⟩ := post
  cases stage with
  | ended ends =>
    cases ends with
    | created id =>
      have status := verdict_created address id
      simp [isRefused, answer?, puttingOff, Submission.refused?, status]
    | refused id error => rfl
    | failed error =>
      have status : (verdict address (.ended (.failed error))).status ≠ 429 := error.response_status
      simp [isRefused, answer?, puttingOff, Submission.refused?, status]
  | _ => rfl

end Post

inductive Happening where
  | event (event : Event)
  | request (call : Call) (fresh : JobId) (now : Timestamp)
  | step (index : Nat)

namespace Happening

def orderly : Happening → Bool
  | .event happens => !happens.byCaller
  | _ => true

def draws : Happening → List JobId
  | .event _ => []
  | .request _ fresh _ => [fresh]
  | .step _ => []

def drawn (happenings : List Happening) : List JobId := happenings.flatMap draws

end Happening

/-- The service, the requests for new jobs that it has read, and its answers to the others. -/
structure Desk (W : Type) where
  service : Service (Unreliable History) W
  posts : List Post := []
  answered : List Response := []

namespace Desk

variable {W : Type}

def new (timeLimit : Nat) (store : Unreliable History) (world : W) (address : String) : Desk W :=
  { service := { processor := .new timeLimit store world, address } }

def answers (desk : Desk W) : List Response :=
  desk.answered ++ desk.posts.filterMap (Post.answer? desk.service.address)

def receive (call : Call) (fresh : JobId) (now : Timestamp) (desk : Desk W) : Desk W :=
  match call.asksForJob, requestedKind call with
  | true, .ok kind => { desk with posts := desk.posts ++ [{ fresh, now, stage := .storing kind }] }
  | _, _ =>
    let (answer, service) := respond call fresh now desk.service
    { desk with service, answered := desk.answered ++ [answer] }

def take [Stages W] (desk : Desk W) : Happening → Desk W
  | .event event =>
    { desk with
      service := { desk.service with processor := (desk.service.processor.step event).1 } }
  | .request call fresh now => desk.receive call fresh now
  | .step index =>
    match desk.posts[index]? with
    | none => desk
    | some post =>
      let (stage, processor, _) := post.stage.step post.fresh post.now desk.service.processor
      { desk with
        service := { desk.service with processor }
        posts := desk.posts.set index { post with stage } }

def takeAll [Stages W] (desk : Desk W) (happenings : List Happening) : Desk W :=
  happenings.foldl take desk

theorem receive_asking (desk : Desk W) {call : Call} (asks : call.asksForJob = true)
    {kind : JobKind} (asked : requestedKind call = .ok kind) (fresh : JobId) (now : Timestamp) :
    desk.receive call fresh now =
      { desk with posts := desk.posts ++ [{ fresh, now, stage := .storing kind }] } := by
  rw [receive, asks, asked]

theorem receive_other (desk : Desk W) {call : Call}
    (other : ∀ kind, call.asksForJob = true → requestedKind call ≠ .ok kind) (fresh : JobId)
    (now : Timestamp) :
    desk.receive call fresh now =
      { desk with
        service := (respond call fresh now desk.service).2
        answered := desk.answered ++ [(respond call fresh now desk.service).1] } := by
  unfold receive
  cases asks : call.asksForJob with
  | false => rfl
  | true =>
    cases asked : requestedKind call with
    | ok kind => exact absurd asked (other kind asks)
    | error refusal => rfl

section Answering

variable [Stages W]

theorem take_address (desk : Desk W) (happening : Happening) :
    (desk.take happening).service.address = desk.service.address := by
  cases happening with
  | event happens => rfl
  | request call fresh now =>
    rw [take]
    by_cases asking : call.asksForJob = true ∧ ∃ kind, requestedKind call = .ok kind
    · obtain ⟨asks, kind, asked⟩ := asking
      rw [desk.receive_asking asks asked]
    · have other : ∀ kind, call.asksForJob = true → requestedKind call ≠ .ok kind :=
        fun kind asks asked => asking ⟨asks, kind, asked⟩
      rw [desk.receive_other other]
      exact (respond_reads other fresh now desk.service).address
  | step index =>
    rw [take]
    split <;> rfl

theorem takeAll_address (desk : Desk W) (happenings : List Happening) :
    (desk.takeAll happenings).service.address = desk.service.address := by
  induction happenings generalizing desk with
  | nil => rfl
  | cons happening happenings ih =>
    exact (ih (desk.take happening)).trans (desk.take_address happening)

theorem takeAll_steps (service : Service (Unreliable History) W) (front : List Post) (post : Post)
    (answered : List Response) (count : Nat) :
    takeAll { service, posts := front ++ [post], answered }
        (List.replicate count (.step front.length)) =
      { service :=
          { service with
            processor :=
              (Submission.run post.fresh post.now count post.stage service.processor).2.1 }
        posts := front ++
          [{ post with
            stage := (Submission.run post.fresh post.now count post.stage service.processor).1 }]
        answered } := by
  induction count generalizing service post with
  | zero => rfl
  | succ count ih =>
    have place : (front ++ [post])[front.length]? = some post := by simp
    have set : ∀ next, (front ++ [post]).set front.length next = front ++ [next] := by simp
    rw [List.replicate_succ, takeAll, List.foldl_cons, take]
    simp only [place, set]
    exact ih _ _

theorem takeAll_vacant {desk : Desk W} {index : Nat} (vacant : desk.posts[index]? = none)
    (count : Nat) : desk.takeAll (List.replicate count (.step index)) = desk := by
  induction count with
  | zero => rfl
  | succ count ih =>
    rw [List.replicate_succ, takeAll, List.foldl_cons, take, vacant]
    exact ih

def serve (call : Call) (fresh : JobId) (now : Timestamp) (desk : Desk W) : Desk W :=
  desk.takeAll
    (.request call fresh now :: List.replicate Submission.stepCount (.step desk.posts.length))

theorem serve_other (desk : Desk W) {call : Call}
    (other : ∀ kind, call.asksForJob = true → requestedKind call ≠ .ok kind) (fresh : JobId)
    (now : Timestamp) :
    desk.serve call fresh now =
      { desk with
        service := (respond call fresh now desk.service).2
        answered := desk.answered ++ [(respond call fresh now desk.service).1] } := by
  rw [serve, takeAll, List.foldl_cons, take, desk.receive_other other]
  exact takeAll_vacant (List.getElem?_eq_none (Nat.le_refl _)) _

theorem serve_asking (desk : Desk W) {call : Call} (asks : call.asksForJob = true)
    {kind : JobKind} (asked : requestedKind call = .ok kind) (fresh : JobId) (now : Timestamp) :
    desk.serve call fresh now =
      { desk with
        service := (respond call fresh now desk.service).2
        posts := desk.posts ++
          [{ fresh, now
             stage := (Submission.run fresh now Submission.stepCount (.storing kind)
               desk.service.processor).1 }] } := by
  rw [serve, takeAll, List.foldl_cons, take, desk.receive_asking asks asked,
    respond_run asks asked]
  exact takeAll_steps desk.service desk.posts { fresh, now, stage := .storing kind } desk.answered _

end Answering

-- The posts around one that takes a step.
section Places

variable {α : Type} {front back : List α} {old : α}

theorem split_place {posts : List α} {index : Nat} (place : posts[index]? = some old) :
    ∃ front back, posts = front ++ old :: back ∧
      ∀ next, posts.set index next = front ++ next :: back := by
  obtain ⟨inside, here⟩ := List.getElem?_eq_some_iff.mp place
  refine ⟨posts.take index, posts.drop (index + 1), ?_, fun next => ?_⟩
  · rw [← here, List.getElem_cons_drop, List.take_append_drop]
  · rw [List.set_eq_take_append_cons_drop, if_pos inside]

theorem replaced {other : α} (member : other ∈ front ++ old :: back) (next : α) :
    other = old ∨ other ∈ front ++ next :: back := by
  have found : other ∈ front ∨ other = old ∨ other ∈ back := by simpa using member
  rcases found with ahead | same | behind
  · exact .inr (List.mem_append_left _ ahead)
  · exact .inl same
  · exact .inr (List.mem_append_right _ (List.mem_cons_of_mem next behind))

end Places

/-- What every order of happenings keeps. `known` are the ids drawn so far and those stored
before. -/
structure Orderly (desk : Desk W) (known : List (Option JobId)) : Prop where
  admission : ∃ notes, Processor.Admission desk.service.processor notes ∧
    ∀ id ∈ Note.admissions notes ++ desk.service.processor.caller.toList,
      ∃ post ∈ desk.posts, post.stage.accepted? = some id
  calling : ∀ id, desk.service.processor.caller = some id →
    ∃ post ∈ desk.posts, post.stage = .offered id
  counted : desk.service.processor.counters.rejected = desk.posts.countP Post.isRefused
  untold : ∀ answer ∈ desk.answered, answer.status ≠ 429
  named : ∀ post ∈ desk.posts, ∀ id, post.stage.id? = some id → id = post.fresh
  apart : (desk.posts.map Post.fresh).Nodup
  drawn : ∀ post ∈ desk.posts, some post.fresh ∈ known
  distinct : (desk.service.processor.store.inner.jobs.map Job.id).Nodup
  stored : ∀ id ∈ desk.service.processor.store.inner.jobs.map Job.id, id ∈ known
  unstored : ∀ post ∈ desk.posts, post.stage.id? = none →
    some post.fresh ∉ desk.service.processor.store.inner.jobs.map Job.id

namespace Orderly

variable {desk : Desk W} {known : List (Option JobId)}

theorem new (timeLimit : Nat) (store : Unreliable History) (world : W) (address : String)
    (distinct : (store.inner.jobs.map Job.id).Nodup) :
    Orderly (Desk.new timeLimit store world address) (store.inner.jobs.map Job.id) where
  admission := ⟨[], .new timeLimit store world, by simp [Desk.new, Note.admissions, Processor.new]⟩
  calling := by simp [Desk.new, Processor.new]
  counted := rfl
  untold := by simp [Desk.new]
  named := by simp [Desk.new]
  apart := List.nodup_nil
  drawn := by simp [Desk.new]
  distinct := distinct
  stored id member := member
  unstored := by simp [Desk.new]

theorem beside (orderly : Orderly desk known) {next : Desk W} (posts : next.posts = desk.posts)
    (admission : ∃ notes, Processor.Admission next.service.processor notes ∧
      ∀ id ∈ Note.admissions notes ++ next.service.processor.caller.toList,
        ∃ post ∈ desk.posts, post.stage.accepted? = some id)
    (caller : next.service.processor.caller = desk.service.processor.caller)
    (rejected : next.service.processor.counters.rejected =
      desk.service.processor.counters.rejected)
    (ids : next.service.processor.store.inner.jobs.map Job.id =
      desk.service.processor.store.inner.jobs.map Job.id)
    (untold : ∀ answer ∈ next.answered, answer.status ≠ 429) : Orderly next known := by
  constructor
  · rw [posts]; exact admission
  · rw [posts, caller]; exact orderly.calling
  · rw [posts, rejected]; exact orderly.counted
  · exact untold
  · rw [posts]; exact orderly.named
  · rw [posts]; exact orderly.apart
  · rw [posts]; exact orderly.drawn
  · rw [ids]; exact orderly.distinct
  · rw [ids]; exact orderly.stored
  · rw [posts, ids]; exact orderly.unstored

theorem widen (orderly : Orderly desk known) {wider : List (Option JobId)}
    (grown : ∀ id ∈ known, id ∈ wider) : Orderly desk wider :=
  { orderly with
    drawn := fun post member => grown _ (orderly.drawn post member)
    stored := fun id member => grown id (orderly.stored id member) }

theorem event [Stages W] (orderly : Orderly desk known) (event : Event)
    (apart : event.byCaller = false) : Orderly (desk.take (.event event)) known := by
  obtain ⟨notes, admission, accepted⟩ := orderly.admission
  obtain ⟨caller, admissions, _⟩ := desk.service.processor.step_apart event apart
  refine orderly.beside rfl ⟨_, admission.step event, ?_⟩ caller
    (desk.service.processor.step_rejected event) (desk.service.processor.step_stored event)
    orderly.untold
  have same : (desk.take (.event event)).service.processor.caller =
    desk.service.processor.caller := caller
  rw [Note.admissions_append, admissions, List.append_nil, same]
  exact accepted

theorem reads (orderly : Orderly desk known) {answered : Response × Service (Unreliable History) W}
    (reads : Reads desk.service answered) :
    Orderly { desk with service := answered.2, answered := desk.answered ++ [answered.1] }
      known := by
  obtain ⟨status, calls, same⟩ := reads
  obtain ⟨notes, admission, accepted⟩ := orderly.admission
  rw [same]
  refine orderly.beside rfl ⟨notes, admission.aside _ _, accepted⟩ rfl rfl rfl ?_
  intro answer member
  rcases List.mem_append.mp member with before | now
  · exact orderly.untold answer before
  · rw [List.mem_singleton.mp now]
    exact status

theorem arrives (orderly : Orderly desk known) {fresh : JobId} (new : some fresh ∉ known)
    (now : Timestamp) (kind : JobKind) :
    Orderly { desk with posts := desk.posts ++ [{ fresh, now, stage := .storing kind }] }
      (known ++ [some fresh]) := by
  obtain ⟨notes, admission, accepted⟩ := orderly.admission
  have earlier : ∀ {post : Post}, post ∈ desk.posts ++ [{ fresh, now, stage := .storing kind }] →
      post ∈ desk.posts ∨ post = { fresh, now, stage := .storing kind } := by simp
  refine ⟨⟨notes, admission, fun id member => ?_⟩, fun id calls => ?_, ?_, orderly.untold, ?_, ?_,
    ?_, orderly.distinct, fun id member => List.mem_append_left _ (orderly.stored id member), ?_⟩
  · obtain ⟨post, member, accepts⟩ := accepted id member
    exact ⟨post, List.mem_append_left _ member, accepts⟩
  · obtain ⟨post, member, offered⟩ := orderly.calling id calls
    exact ⟨post, List.mem_append_left _ member, offered⟩
  · simp [List.countP_append, Post.isRefused, Submission.refused?, orderly.counted]
  · intro post member id owns
    rcases earlier member with old | rfl
    · exact orderly.named post old id owns
    · cases owns
  · rw [List.map_append, List.nodup_append]
    refine ⟨orderly.apart, List.nodup_singleton _, ?_⟩
    rintro id old _ single rfl
    obtain ⟨post, member, rfl⟩ := List.mem_map.mp old
    have same : post.fresh = fresh := List.mem_singleton.mp single
    exact new (same ▸ orderly.drawn post member)
  · intro post member
    rcases earlier member with old | rfl
    · exact List.mem_append_left _ (orderly.drawn post old)
    · exact List.mem_append_right _ (List.mem_singleton_self _)
  · intro post member unnamed
    rcases earlier member with old | rfl
    · exact orderly.unstored post old unnamed
    · exact fun held => new (orderly.stored _ held)

theorem moves {front back : List Post} {post : Post} {service : Service (Unreliable History) W}
    {answered : List Response}
    (orderly : Orderly { service, posts := front ++ post :: back, answered } known)
    {stage : Submission} {q : Processor (Unreliable History) W} {later : List Note}
    (stepped : post.stage.step post.fresh post.now service.processor = (stage, q, later)) :
    Orderly
      { service := { service with processor := q }
        posts := front ++ { post with stage } :: back
        answered } known := by
  obtain ⟨notes, admission, accepted⟩ := orderly.admission
  have move := post.stage.step_spec post.fresh post.now service.processor
  have keeps := post.stage.step_keeps post.fresh post.now service.processor
  rw [stepped] at move keeps
  dsimp only at move keeps
  have here : post ∈ front ++ post :: back := by simp
  have there : { post with stage } ∈ front ++ { post with stage } :: back := by simp
  have fresh : (front ++ { post with stage } :: back).map Post.fresh =
      (front ++ post :: back).map Post.fresh := by simp
  have apart : ((front ++ { post with stage } :: back).map Post.fresh).Nodup := by
    rw [fresh]
    exact orderly.apart
  -- Whoever stood there stands there still, and the others are apart from this one.
  have before : ∀ {other : Post}, other ∈ front ++ { post with stage } :: back →
      other = { post with stage } ∨ (other ∈ front ++ post :: back ∧ other.fresh ≠ post.fresh) := by
    intro other member
    by_cases same : other.fresh = post.fresh
    · exact .inl (List.inj_on_of_nodup_map apart member there same)
    · refine .inr ⟨?_, same⟩
      rcases replaced member post with rfl | old
      · exact absurd rfl same
      · exact old
  have stores := move.stores
  refine ⟨⟨notes ++ later, move.admission admission, fun id member => ?_⟩, fun id calls => ?_, ?_,
    orderly.untold, fun other member id owns => ?_, apart, fun other member => ?_, ?_, ?_,
    fun other member unnamed => ?_⟩
  · rcases move.accepted member with now | old
    · exact ⟨_, there, now⟩
    · obtain ⟨other, placed, accepts⟩ := accepted id old
      rcases replaced placed { post with stage } with rfl | placed
      · exact ⟨_, there, (keeps id).1 accepts⟩
      · exact ⟨other, placed, accepts⟩
  · rcases move.calling calls with now | ⟨old, different⟩
    · exact ⟨_, there, now⟩
    · obtain ⟨other, placed, offered⟩ := orderly.calling id old
      rcases replaced placed { post with stage } with rfl | placed
      · exact absurd offered different
      · exact ⟨other, placed, offered⟩
  · have counted := orderly.counted
    have moved : q.counters.rejected + (if post.isRefused then 1 else 0) =
        service.processor.counters.rejected +
          if Post.isRefused { post with stage } then 1 else 0 := move.counted
    simp only [List.countP_append, List.countP_cons] at counted ⊢
    omega
  · rcases before member with rfl | ⟨old, _⟩
    · rcases stores with ⟨_, same⟩ | ⟨_, named, _⟩
      · exact orderly.named post here id (same ▸ owns)
      · exact Option.some.inj (owns.symm.trans named)
    · exact orderly.named other old id owns
  · rcases before member with rfl | ⟨old, _⟩
    · exact orderly.drawn post here
    · exact orderly.drawn other old
  · rcases stores with ⟨ids, _⟩ | ⟨unnamed, _, kind, pushed⟩
    · exact ids ▸ orderly.distinct
    · rw [pushed]
      exact History.push_ids_nodup orderly.distinct (orderly.unstored post here unnamed) rfl
  · rcases stores with ⟨ids, _⟩ | ⟨_, _, kind, pushed⟩
    · exact ids ▸ orderly.stored
    · intro id member
      rw [pushed] at member
      rcases History.mem_push_ids member with old | rfl
      · exact orderly.stored id old
      · exact orderly.drawn post here
  · rcases stores with ⟨ids, same⟩ | ⟨_, named, kind, pushed⟩
    · rw [ids]
      rcases before member with rfl | ⟨old, _⟩
      · exact orderly.unstored post here (same.symm.trans unnamed)
      · exact orderly.unstored other old unnamed
    · rcases before member with rfl | ⟨old, different⟩
      · cases unnamed.symm.trans named
      · intro held
        rw [pushed] at held
        rcases History.mem_push_ids held with stored | same
        · exact orderly.unstored other old unnamed stored
        · exact different (Option.some.inj same)

theorem receives (orderly : Orderly desk known) (call : Call) {fresh : JobId}
    (new : some fresh ∉ known) (now : Timestamp) :
    Orderly (desk.receive call fresh now) (known ++ [some fresh]) := by
  by_cases asking : call.asksForJob = true ∧ ∃ kind, requestedKind call = .ok kind
  · obtain ⟨asks, kind, asked⟩ := asking
    rw [desk.receive_asking asks asked]
    exact orderly.arrives new now kind
  · have other : ∀ kind, call.asksForJob = true → requestedKind call ≠ .ok kind :=
      fun kind asks asked => asking ⟨asks, kind, asked⟩
    rw [desk.receive_other other]
    exact (orderly.reads (respond_reads other fresh now desk.service)).widen
      fun _ => List.mem_append_left _

theorem take [Stages W] (orderly : Orderly desk known) (happening : Happening)
    (apart : happening.orderly = true) (new : ∀ id ∈ happening.draws, some id ∉ known) :
    Orderly (desk.take happening) (known ++ happening.draws.map some) := by
  cases happening with
  | request call fresh now =>
    exact orderly.receives call (new fresh (List.mem_singleton_self fresh)) now
  | event happens =>
    rw [Happening.draws, List.map_nil, List.append_nil]
    exact orderly.event happens (by simpa [Happening.orderly] using apart)
  | step index =>
    rw [Happening.draws, List.map_nil, List.append_nil, Desk.take]
    cases place : desk.posts[index]? with
    | none => exact orderly
    | some post =>
      obtain ⟨front, back, posts, set⟩ := split_place place
      obtain ⟨service, _, answered⟩ := desk
      dsimp only at posts set ⊢
      subst posts
      rw [set]
      exact orderly.moves rfl

theorem takeAll [Stages W] (orderly : Orderly desk known) (happenings : List Happening)
    (apart : ∀ happening ∈ happenings, happening.orderly = true)
    (new : (known ++ (Happening.drawn happenings).map some).Nodup) :
    Orderly (desk.takeAll happenings) (known ++ (Happening.drawn happenings).map some) := by
  induction happenings generalizing desk known with
  | nil => simpa [Happening.drawn, Desk.takeAll] using orderly
  | cons happening happenings ih =>
    have both : Happening.drawn (happening :: happenings) =
        happening.draws ++ Happening.drawn happenings := List.flatMap_cons
    rw [both, List.map_append, ← List.append_assoc] at new ⊢
    have unknown : ∀ id ∈ happening.draws, some id ∉ known := by
      intro id draws old
      have parts := List.nodup_append.mp (List.nodup_append.mp new).1
      exact parts.2.2 _ old _ (List.mem_map_of_mem draws) rfl
    exact ih (orderly.take happening (apart happening List.mem_cons_self) unknown)
      (fun other member => apart other (List.mem_cons_of_mem happening member)) new

theorem rejected (orderly : Orderly desk known) :
    desk.service.processor.counters.rejected =
      desk.answers.countP (fun answer => answer.status == 429) +
        desk.posts.countP Post.puttingOff := by
  have told : ∀ posts : List Post, posts.countP Post.isRefused =
      (posts.filterMap (Post.answer? desk.service.address)).countP
          (fun answer => answer.status == 429) + posts.countP Post.puttingOff := by
    intro posts
    induction posts with
    | nil => rfl
    | cons post posts ih =>
      -- The refusal is read off the stage, the answer off the verdict.
      have once := post.counted_once desk.service.address
      rw [List.countP_cons, List.countP_cons, List.filterMap_cons, ih]
      cases answer : post.answer? desk.service.address with
      | none =>
        simp only [answer, Option.toList_none, List.countP_nil] at once ⊢
        omega
      | some answer =>
        simp only [answer, Option.toList_some, List.countP_cons, List.countP_nil] at once ⊢
        omega
  have others : desk.answered.countP (fun answer => answer.status == 429) = 0 := by
    rw [List.countP_eq_zero]
    intro answer member
    simpa using orderly.untold answer member
  rw [answers, List.countP_append, others, Nat.zero_add, orderly.counted, told]

theorem foreign (orderly : Orderly desk known) {post : Post} (member : post ∈ desk.posts)
    {id : JobId} (refused : post.stage.refused? = some id) :
    id ∉ desk.service.processor.occupants := by
  intro on
  obtain ⟨notes, admission, accepted⟩ := orderly.admission
  -- The request that this id was accepted for would be the one that it was refused to.
  obtain ⟨other, there, accepts⟩ := accepted id (admission.accepted on)
  have mine := orderly.named post member id (Submission.id?_of_refused? refused)
  have theirs := orderly.named other there id (Submission.id?_of_accepted? accepts)
  have same := List.inj_on_of_nodup_map orderly.apart member there (mine.symm.trans theirs)
  exact Submission.not_refused_of_accepted accepts (same ▸ refused)

theorem unknown_foreign (orderly : Orderly desk known) {id : JobId} (new : some id ∉ known) :
    id ∉ desk.service.processor.occupants := by
  intro on
  obtain ⟨notes, admission, accepted⟩ := orderly.admission
  -- Whatever is on its way belongs to a request that the desk has read.
  obtain ⟨post, there, accepts⟩ := accepted id (admission.accepted on)
  have mine := orderly.named post there id (Submission.id?_of_accepted? accepts)
  exact new (mine ▸ orderly.drawn post there)

end Orderly

end Desk

end Http

end TicketReports
