import Mathlib.Logic.Relation
import TicketReports.Proofs.Processor.Stamping
import TicketReports.Proofs.Processor.Stopping

set_option autoImplicit false

namespace TicketReports

namespace Processor

variable {σ W : Type}

section Views

variable [JobStore σ] [Stages W] {p q : Processor σ W} {notes : List Note} {now : Timestamp}
  {α : Type} (view : σ → α) (gets : ∀ id store, view (JobStore.get id store).2 = view store)
  (lists : ∀ store, view (JobStore.running store).2 = view store)
  (updates : ∀ job store, view (JobStore.update job store).2 = view store)
include gets updates

theorem Advance.keeps {run : Run} (advance : Advance p run now q notes) :
    view q.store = view p.store := by
  have loads : ∀ {answer : Except StoreError Job} {store : σ},
      JobStore.get run.id p.store = (answer, store) → view store = view p.store := by
    intro answer store found
    have same := gets run.id p.store
    rwa [found] at same
  cases advance with
  | missing change rest error store todo answer => exact loads answer
  | declined change rest job error store todo answer applied => exact loads answer
  | changed change rest job next store todo answer applied => exact loads answer
  | saved job rest todo => exact updates job p.store
  | _ => rfl

include lists

theorem step_keeps_view (event : Event) : view (p.step event).1.store = view p.store := by
  have move := p.step_spec event
  generalize (p.step event).1 = q, (p.step event).2 = notes at move
  have lists : ∀ {answer : Except StoreError (List Job)} {store : σ},
      JobStore.running p.store = (answer, store) → view store = view p.store := by
    intro answer store found
    have same := lists p.store
    rwa [found] at same
  cases move with
  | worked away now q notes turn =>
    cases turn with
    | surveyed stranded store surveying answer => exact lists answer
    | unsurveyed error store surveying answer => exact lists answer
    | reclaimed job closed rest => exact updates closed p.store
    | began other => exact gets other p.store
    | advanced run q notes running advance => exact advance.keeps view gets updates
    | _ => rfl
  | _ => rfl

end Views

theorem step_fails [Stages W] (p : Processor (Unreliable History) W) (event : Event) :
    (p.step event).1.store.fails = p.store.fails :=
  p.step_keeps_view Unreliable.fails (fun id store => (Unreliable.get_spec id store).2.1)
    (fun store => (Unreliable.running_spec store).2.1)
    (fun job store => (Unreliable.update_spec job store).1) event

theorem step_stored [Stages W] (p : Processor (Unreliable History) W) (event : Event) :
    (p.step event).1.store.inner.jobs.map Job.id = p.store.inner.jobs.map Job.id :=
  p.step_keeps_view (fun store => store.inner.jobs.map Job.id)
    (fun id store => by rw [(Unreliable.get_spec id store).1])
    (fun store => by rw [(Unreliable.running_spec store).1])
    (fun job store => Unreliable.update_ids job store) event

theorem step_unstarted [JobStore σ] [Stages W] (p : Processor σ W) (event : Event)
    (unstarted : (p.step event).1.worker.started = false) :
    p.worker.started = false ∧ Note.beginnings (p.step event).2 = [] := by
  have before := p.step_early event unstarted
  refine ⟨before, ?_⟩
  have move := p.step_spec event
  generalize (p.step event).1 = q, (p.step event).2 = notes at move
  cases move with
  | worked away now q notes turn =>
    cases turn with
    | began id looking => simp [looking, Worker.started] at before
    | advanced run q notes running _ => simp [running, Worker.started] at before
    | _ => rfl
  | _ => rfl

end Processor

/-- A processor with its store and a clock. `stored` tells whether the job in question has been
stored. -/
structure Scene (W : Type) where
  processor : Processor (Unreliable History) W
  notes : List Note := []
  now : Timestamp
  stored : Bool := false

namespace Scene

variable {W : Type}

def held? (id : JobId) (scene : Scene W) : Option Job := scene.processor.store.inner.find? id

def taken (scene : Scene W) : List JobId :=
  Note.admissions scene.notes ++ scene.processor.caller.toList

/-- What may happen next around a job: a party of the processor acts, where the job is handed over
once and after it was stored; the job is stored; or others use the store and do not touch it. -/
inductive Next [Stages W] (id : JobId) : Scene W → Scene W → Prop
  | acts (scene : Scene W) (event : Event) (time : Timestamp) (passed : scene.now ≤ time)
      (timed : ∀ away moment, event = .work away moment → moment = time)
      (once : event = .enter id → scene.stored = true ∧ id ∉ scene.taken) :
      Next id scene
        { scene with
          processor := (scene.processor.step event).1
          notes := scene.notes ++ (scene.processor.step event).2
          now := time }
  | stores (scene : Scene W) (kind : JobKind) (time : Timestamp) (passed : scene.now ≤ time)
      (new : scene.stored = false) (after : Unreliable History)
      (created : JobStore.create id time kind scene.processor.store = (.ok id, after)) :
      Next id scene
        { scene with
          processor := { scene.processor with store := after }
          now := time
          stored := true }
  | others (scene : Scene W) (after : Unreliable History)
      (fails : after.fails = scene.processor.store.fails)
      (distinct : (after.inner.jobs.map Job.id).Nodup)
      (kept : Job.Kept (scene.held? id) (after.inner.find? id)) :
      Next id scene { scene with processor := { scene.processor with store := after } }

structure Handed (id : JobId) (scene : Scene W) : Prop where
  admission : Processor.Admission scene.processor scene.notes
  once : scene.taken.count id ≤ 1
  unstarted : scene.processor.worker.started = false → Note.beginnings scene.notes = []
  unsent : scene.stored = false → id ∉ scene.taken

/-- What is stored of the job, and the copies of it that may yet be saved. -/
structure Told (id : JobId) (scene : Scene W) : Prop where
  distinct : (scene.processor.store.inner.jobs.map Job.id).Nodup
  unstored : scene.stored = false → scene.held? id = none
  blank : id ∉ Note.beginnings scene.notes → ∀ job, scene.held? id = some job → job.progress = {}
  stranded : ∀ copies, scene.processor.worker = .reclaiming copies →
    (copies.map Job.id).Nodup ∧ ∀ copy ∈ copies, copy.id = some id → copy.progress = {} ∧
      ∀ job, scene.held? id = some job → job.isRunning = true
  sound : ∀ job, scene.held? id = some job → job.progress.Sound scene.now
  named : ∀ run, scene.processor.worker = .running run → ∀ copy, .save copy ∈ run.todo →
    copy.id = some run.id
  writes : ∀ run, scene.processor.worker = .running run → run.id = id →
    Writing scene.now run (scene.held? id)
  candid : scene.processor.store.Unfailing → ∀ job, scene.held? id = some job → job.Candid
  exact : scene.processor.store.Unfailing → ∀ run, scene.processor.worker = .running run →
    run.id = id → ∃ ahead, Exact run (scene.held? id) ahead

namespace Handed

variable {id : JobId} {scene : Scene W}

theorem begun (handed : Handed id scene) :
    scene.taken = Note.beginnings scene.notes ++ scene.processor.pending :=
  handed.admission.queue

theorem not_begun (handed : Handed id scene) (waits : id ∈ scene.processor.pending) :
    id ∉ Note.beginnings scene.notes := by
  intro begun
  have once := handed.once
  rw [handed.begun, List.count_append] at once
  have first := List.count_pos_iff.mpr begun
  have second := List.count_pos_iff.mpr waits
  omega

theorem taken_acts [Stages W] (scene : Scene W) (event : Event) (time : Timestamp) :
    taken { scene with
        processor := (scene.processor.step event).1
        notes := scene.notes ++ (scene.processor.step event).2
        now := time } =
      scene.taken ++ (scene.processor.taken? event).toList := by
  rw [taken, taken, List.append_assoc, scene.processor.step_takes event, Note.admissions_append,
    List.append_assoc]

theorem taken?_enter (p : Processor (Unreliable History) W) {event : Event} {other : JobId}
    (takes : p.taken? event = some other) : event = .enter other := by
  cases event with
  | enter offered =>
    rw [Processor.taken?] at takes
    split at takes
    next free =>
      have nobody : p.caller = none := by simpa [Processor.free] using free
      rcases Processor.enter_free free offered with filled | refused
      · rw [filled] at takes
        cases takes
        rfl
      · rw [refused] at takes
        cases nobody.symm.trans takes
    next => cases takes
  | _ => cases takes

theorem acts [Stages W] (handed : Handed id scene) {event : Event} {time : Timestamp}
    (once : event = .enter id → scene.stored = true ∧ id ∉ scene.taken) :
    Handed id { scene with
      processor := (scene.processor.step event).1
      notes := scene.notes ++ (scene.processor.step event).2
      now := time } := by
  have offers : ∀ other, scene.processor.taken? event = some other → event = .enter other :=
    fun other => taken?_enter scene.processor
  refine ⟨handed.admission.step event, ?_, fun unstarted => ?_, fun unstored => ?_⟩
  · rw [taken_acts, List.count_append]
    cases takes : scene.processor.taken? event with
    | none => simpa using handed.once
    | some other =>
      by_cases mine : other = id
      · obtain ⟨_, fresh⟩ := once (mine ▸ offers other takes)
        simp [List.count_eq_zero.mpr fresh, mine]
      · simpa [mine] using handed.once
  · obtain ⟨before, none⟩ := scene.processor.step_unstarted event unstarted
    simp [handed.unstarted before, none]
  · rw [taken_acts, List.mem_append]
    rintro (before | offered)
    · exact handed.unsent unstored before
    · have same := offers id (Option.mem_toList.mp offered)
      cases unstored.symm.trans (once same).1

end Handed

namespace Told

variable {id : JobId} {scene : Scene W}

theorem new (timeLimit : Nat) (store : Unreliable History) (world : W) (start : Timestamp)
    (distinct : (store.inner.jobs.map Job.id).Nodup) (unused : store.inner.find? id = none) :
    Told id { processor := Processor.new timeLimit store world, now := start } := by
  have absent : ∀ job, store.inner.find? id ≠ some job := by simp [unused]
  exact ⟨distinct, fun _ => unused, fun _ job held => absurd held (absent job), nofun,
    fun job held => absurd held (absent job), nofun, nofun,
    fun _ job held => absurd held (absent job), fun _ => nofun⟩

theorem still (told : Told id scene) {next : Scene W} (passed : scene.now ≤ next.now)
    (fails : next.processor.store.fails = scene.processor.store.fails)
    (distinct : (next.processor.store.inner.jobs.map Job.id).Nodup)
    (stored : next.stored = scene.stored)
    (kept : ∀ job, next.held? id = some job → scene.held? id = some job)
    (begun : id ∉ Note.beginnings next.notes → id ∉ Note.beginnings scene.notes)
    (runs : ∀ run, next.processor.worker = .running run → ∃ old,
      scene.processor.worker = .running old ∧ run.id = old.id ∧ run.todo = old.todo ∧
        run.closing = old.closing)
    (reclaims : ∀ copies, next.processor.worker = .reclaiming copies → ∃ old,
      scene.processor.worker = .reclaiming old ∧ copies.Sublist old) : Told id next := by
  have unfailing : next.processor.store.Unfailing → scene.processor.store.Unfailing := by
    intro unfailing
    rwa [Unreliable.Unfailing, fails] at unfailing
  refine ⟨distinct, fun unstored => ?_, fun unbegun job held =>
    told.blank (begun unbegun) job (kept job held), fun copies reclaiming => ?_,
    fun job held => (told.sound job (kept job held)).later passed, fun run running => ?_,
    fun run running mine => ?_, fun steady job held => told.candid (unfailing steady) job
      (kept job held), fun steady run running mine => ?_⟩
  · have none := told.unstored (stored ▸ unstored)
    cases held : next.held? id with
    | none => rfl
    | some job => cases none.symm.trans (kept job held)
  · obtain ⟨old, before, fewer⟩ := reclaims copies reclaiming
    obtain ⟨nodup, blank⟩ := told.stranded old before
    refine ⟨nodup.sublist (fewer.map Job.id), fun copy member named => ?_⟩
    obtain ⟨progress, running⟩ := blank copy (fewer.subset member) named
    exact ⟨progress, fun job held => running job (kept job held)⟩
  · obtain ⟨old, before, same, todo, _⟩ := runs run running
    rw [same, todo]
    exact told.named old before
  · obtain ⟨old, before, same, todo, _⟩ := runs run running
    exact (told.writes old before (same ▸ mine)).same passed todo kept
  · obtain ⟨old, before, same, todo, closing⟩ := runs run running
    obtain ⟨ahead, exact⟩ := told.exact (unfailing steady) old before (same ▸ mine)
    exact ⟨ahead, exact.same todo closing kept⟩

section Turns

variable {q : Processor (Unreliable History) W} {notes : List Note} {time : Timestamp}

theorem surveys (told : Told id scene) (handed : Handed id scene) (passed : scene.now ≤ time)
    {stranded : List Job} {store : Unreliable History}
    (surveying : scene.processor.worker = .surveying)
    (answer : JobStore.running scene.processor.store = (.ok stranded, store)) :
    Told id { scene with
      processor := { scene.processor with store, worker := .reclaiming stranded }
      notes := scene.notes ++ []
      now := time } := by
  obtain ⟨inner, fails, listed⟩ := Unreliable.running_spec scene.processor.store
  rw [answer] at inner fails listed
  obtain rfl := listed stranded rfl
  -- The worker has not listened yet, so of the listed jobs none has begun.
  have none := handed.unstarted (by rw [surveying]; rfl)
  have same : ∀ job, store.inner.find? id = some job → scene.held? id = some job := by
    intro job held
    rwa [inner] at held
  -- Until the copies are in place the worker holds nothing.
  have idle : Told id { scene with
      processor := { scene.processor with store, worker := .opening }
      notes := scene.notes ++ []
      now := time } :=
    told.still passed fails (inner ▸ told.distinct) rfl same
      (fun unbegun before => unbegun (by simpa using before)) nofun nofun
  refine ⟨idle.distinct, idle.unstored, idle.blank, fun copies reclaiming => ?_, idle.sound, nofun,
    nofun, idle.candid, fun _ => nofun⟩
  cases reclaiming
  refine ⟨told.distinct.sublist (List.filter_sublist.map Job.id), fun copy member named => ?_⟩
  obtain ⟨stored, running⟩ := List.mem_filter.mp member
  have held : scene.held? id = some copy :=
    (History.find?_eq_some_iff told.distinct id copy).mpr ⟨stored, named⟩
  refine ⟨told.blank (by simp [none]) copy held, fun job has => ?_⟩
  cases held.symm.trans (same job has)
  exact running

theorem reclaims (told : Told id scene) (passed : scene.now ≤ time) {copy closed : Job}
    {rest : List Job} (reclaiming : scene.processor.worker = .reclaiming (copy :: rest))
    (ended : copy.finish (.error interrupted) = .ok closed)
    (fails : (JobStore.update closed scene.processor.store).2.fails = scene.processor.store.fails)
    (distinct : ((JobStore.update closed scene.processor.store).2.inner.jobs.map Job.id).Nodup) :
    Told id { scene with
      processor :=
        { scene.processor with
          store := (JobStore.update closed scene.processor.store).2
          worker := .reclaiming rest }
      notes := scene.notes ++ []
      now := time } := by
  obtain ⟨nodup, blank⟩ := told.stranded _ reclaiming
  have applied : copy.apply time (.close (.error interrupted)) = .ok closed := ended
  obtain ⟨progress, outcome⟩ := Job.apply_close applied
  have same := Job.apply_id applied
  by_cases mine : copy.id = some id
  · -- What the copy overwrites is as blank as the copy.
    have after : ∀ job,
        (JobStore.update closed scene.processor.store).2.inner.find? id = some job →
        scene.held? id = some job ∨ (∃ stored, scene.held? id = some stored) ∧
          job.progress = {} ∧ job.outcome = some (.error interrupted) := by
      intro job held
      rcases (Unreliable.update_find (same.trans mine) scene.processor.store).2 with
        ⟨lost, _⟩ | made
      · exact .inl (lost.symm.trans held)
      · rw [made, Option.map_eq_some_iff] at held
        obtain ⟨stored, before, rfl⟩ := held
        refine .inr ⟨⟨stored, before⟩, ?_, outcome⟩
        exact progress.trans (blank copy List.mem_cons_self mine).1
    rw [List.map_cons, List.nodup_cons] at nodup
    refine ⟨distinct, fun unstored => ?_, fun unbegun job held => ?_, fun copies runs => ?_,
      fun job held => ?_, nofun, nofun, fun steady job held => ?_, fun _ => nofun⟩
    · have none := told.unstored unstored
      refine Option.eq_none_iff_forall_ne_some.mpr fun job held => ?_
      rcases after job held with before | ⟨⟨stored, before⟩, _⟩ <;> cases none.symm.trans before
    · rcases after job held with before | ⟨_, empty, _⟩
      · exact told.blank (by simpa using unbegun) job before
      · exact empty
    · cases runs
      refine ⟨nodup.2, fun other member named => ?_⟩
      exact absurd (List.mem_map.mpr ⟨other, member, named.trans mine.symm⟩) nodup.1
    · rcases after job held with before | ⟨_, empty, _⟩
      · exact (told.sound job before).later passed
      · rw [empty]
        exact Progress.sound_blank time
    · have unfailing : scene.processor.store.Unfailing := by
        rwa [Unreliable.Unfailing, fails] at steady
      rcases after job held with before | ⟨_, empty, failed⟩
      · exact told.candid unfailing job before
      · exact ⟨empty ▸ Progress.level_blank.inStep (List.suffix_refl _), by simp [failed]⟩
  · have others : ∀ job, (JobStore.update closed scene.processor.store).2.inner.find? id =
        some job → scene.held? id = some job := by
      intro job held
      rwa [Unreliable.update_other (by rw [same]; exact mine)] at held
    refine told.still passed fails distinct rfl others
      (fun unbegun before => unbegun (by simpa using before)) nofun fun copies runs => ?_
    cases runs
    exact ⟨_, reclaiming, List.sublist_cons_self _ _⟩

theorem begins (told : Told id scene) (handed : Handed id scene) (passed : scene.now ≤ time)
    {sought : JobId} (looking : scene.processor.worker = .looking sought)
    (fails : (scene.processor.lookUp sought).1.store.fails = scene.processor.store.fails)
    (distinct : ((scene.processor.lookUp sought).1.store.inner.jobs.map Job.id).Nodup) :
    Told id { scene with
      processor := (scene.processor.lookUp sought).1
      notes := scene.notes ++ (scene.processor.lookUp sought).2
      now := time } := by
  have inner : (scene.processor.lookUp sought).1.store.inner = scene.processor.store.inner :=
    (Unreliable.get_spec sought scene.processor.store).1
  -- If the job in question is looked up, it was not worked on before.
  have blank : sought = id → ∀ job, scene.held? id = some job → job.progress = {} := by
    rintro rfl
    refine told.blank (handed.not_begun ?_)
    simp [Processor.pending, looking, Worker.awaited?]
  have same : ∀ job, (scene.processor.lookUp sought).1.store.inner.find? id = some job →
      scene.held? id = some job := by
    intro job held
    rwa [inner] at held
  have unfailing : (scene.processor.lookUp sought).1.store.Unfailing →
      scene.processor.store.Unfailing := by
    intro steady
    rwa [Unreliable.Unfailing, fails] at steady
  refine ⟨distinct, fun unstored => (congrArg (History.find? · id) inner).trans
    (told.unstored unstored), fun unbegun job held => ?_, fun copies reclaims => ?_,
    fun job held => (told.sound job (same job held)).later passed, fun run running => ?_,
    fun run running mine => ?_, fun steady job held => told.candid (unfailing steady) job
      (same job held), fun _ run running mine => ?_⟩
  · exact told.blank (fun before => unbegun (by simp [before])) job (same job held)
  · cases reclaims
  · cases running
    exact fun copy member => absurd member (Action.not_save_plan _ copy)
  · cases running
    exact .begin (fun job held => blank mine job (same job held)) _ _ _ _
  · cases running
    exact ⟨_, .begin (fun job held => blank mine job (same job held)) _ _ _ _⟩

theorem advances [Stages W] (told : Told id scene) (handed : Handed id scene)
    (passed : scene.now ≤ time) {run : Run} (running : scene.processor.worker = .running run)
    (advance : scene.processor.Advance run time q notes)
    (fails : q.store.fails = scene.processor.store.fails)
    (ids : q.store.inner.jobs.map Job.id = scene.processor.store.inner.jobs.map Job.id) :
    Told id { scene with processor := q, notes := scene.notes ++ notes, now := time } := by
  have named := told.named run running
  have unfailing : q.store.Unfailing → scene.processor.store.Unfailing := by
    intro steady
    rwa [Unreliable.Unfailing, fails] at steady
  obtain ⟨stays, copies, others⟩ := advance.stamps named
  have gone : scene.stored = false → q.store.inner.find? id = none := by
    intro unstored
    rw [History.find?_eq_none_iff, ids]
    exact History.find?_eq_none_iff.mp (told.unstored unstored)
  have idle : ∀ stranded, q.worker ≠ .reclaiming stranded := by
    intro stranded reclaiming
    rcases stays with finished | ⟨next, goes, _⟩
    · cases finished.symm.trans reclaiming
    · cases goes.symm.trans reclaiming
  by_cases mine : run.id = id
  · subst mine
    have begun : run.id ∈ Note.beginnings scene.notes :=
      handed.admission.begun run.id (by rw [running]; rfl)
    have writing := told.writes run running rfl
    obtain ⟨sound, writes⟩ := writing.advance told.sound passed named advance
    refine ⟨ids ▸ told.distinct, gone, fun unbegun => absurd (by simp [begun]) unbegun,
      fun copies reclaiming => absurd reclaiming (idle copies), sound, copies,
      fun next runs _ => (writes next runs).2, fun steady => ?_, fun steady next runs _ => ?_⟩
    · obtain ⟨ahead, exact⟩ := told.exact (unfailing steady) run running rfl
      have candid := told.candid (unfailing steady)
      exact (exact.advance writing (unfailing steady) candid named advance).1
    · obtain ⟨ahead, exact⟩ := told.exact (unfailing steady) run running rfl
      have candid := told.candid (unfailing steady)
      exact (exact.advance writing (unfailing steady) candid named advance).2 next runs
  · -- The run of another job does not write to this one.
    have same : q.store.inner.find? id = scene.held? id := others id (Ne.symm mine)
    have foreign : ∀ next, q.worker = .running next → next.id ≠ id := by
      intro next runs owns
      rcases stays with finished | ⟨other, goes, holds⟩
      · cases finished.symm.trans runs
      · cases goes.symm.trans runs
        exact mine (holds.symm.trans owns)
    refine ⟨ids ▸ told.distinct, gone, fun unbegun job held => ?_,
      fun copies reclaiming => absurd reclaiming (idle copies), fun job held =>
      (told.sound job (same ▸ held)).later passed, copies,
      fun next runs owns => absurd owns (foreign next runs),
      fun steady job held => told.candid (unfailing steady) job (same ▸ held),
      fun _ next runs owns => absurd owns (foreign next runs)⟩
    exact told.blank (fun before => unbegun (by simp [before])) job (same ▸ held)

theorem turn [Stages W] (told : Told id scene) (handed : Handed id scene)
    (passed : scene.now ≤ time) {away : Bool} (turn : scene.processor.Turn away time q notes)
    (fails : q.store.fails = scene.processor.store.fails)
    (ids : q.store.inner.jobs.map Job.id = scene.processor.store.inner.jobs.map Job.id) :
    Told id { scene with processor := q, notes := scene.notes ++ notes, now := time } := by
  have distinct : (q.store.inner.jobs.map Job.id).Nodup := ids ▸ told.distinct
  have begun : ∀ later : List Note, id ∉ Note.beginnings (scene.notes ++ later) →
      id ∉ Note.beginnings scene.notes :=
    fun later unbegun before => unbegun (by simp [before])
  have same : ∀ run, scene.processor.worker = .running run → ∃ old,
      scene.processor.worker = .running old ∧ run.id = old.id ∧ run.todo = old.todo ∧
        run.closing = old.closing :=
    fun run running => ⟨run, running, rfl, rfl, rfl⟩
  cases turn with
  | surveyed stranded store surveying answer => exact told.surveys handed passed surveying answer
  | reclaimed job closed rest reclaiming ended =>
    exact told.reclaims passed reclaiming ended fails distinct
  | began sought looking => exact told.begins handed passed looking fails distinct
  | advanced run q notes running advance =>
    exact told.advances handed passed running advance fails ids
  | unsurveyed error store surveying answer =>
    refine told.still passed fails distinct rfl (fun job held => ?_) (begun _) nofun nofun
    exact (congrArg (History.find? · id) (Unreliable.running_inner answer)).symm.trans held
  | passedOver job rest error reclaiming ended =>
    refine told.still passed fails distinct rfl (fun _ held => held) (begun _) nofun ?_
    intro copies runs
    cases runs
    exact ⟨_, reclaiming, List.sublist_cons_self _ _⟩
  | rests gone =>
    exact told.still passed fails distinct rfl (fun _ held => held) (begun _) same
      fun copies reclaiming => ⟨copies, reclaiming, List.Sublist.refl _⟩
  | listens listening empty =>
    exact told.still passed fails distinct rfl (fun _ held => held) (begun _) same
      fun copies reclaiming => ⟨copies, reclaiming, List.Sublist.refl _⟩
  | blocked taken sets =>
    exact told.still passed fails distinct rfl (fun _ held => held) (begun _) same
      fun copies reclaiming => ⟨copies, reclaiming, List.Sublist.refl _⟩
  | completed done finished =>
    refine told.still passed fails distinct rfl (fun _ held => held) (begun _) ?_ ?_ <;>
    · intro _ runs
      dsimp only at runs
      split at runs <;> cases runs
  | _ => exact told.still passed fails distinct rfl (fun _ held => held) (begun _) nofun nofun

end Turns

theorem acts [Stages W] (told : Told id scene) (handed : Handed id scene) {event : Event}
    {time : Timestamp} (passed : scene.now ≤ time)
    (timed : ∀ away moment, event = .work away moment → moment = time) :
    Told id { scene with
      processor := (scene.processor.step event).1
      notes := scene.notes ++ (scene.processor.step event).2
      now := time } := by
  have fails := scene.processor.step_fails event
  have ids := scene.processor.step_stored event
  have move := scene.processor.step_spec event
  generalize (scene.processor.step event).1 = q, (scene.processor.step event).2 = later
    at move fails ids ⊢
  have begun : ∀ later : List Note, id ∉ Note.beginnings (scene.notes ++ later) →
      id ∉ Note.beginnings scene.notes :=
    fun later unbegun before => unbegun (by simp [before])
  -- A run that is cancelled has as much to record as before.
  have cancelled : ∀ run stopping, scene.processor.worker = .running run →
      Told id { scene with
        processor := { scene.processor with stopping, worker := .running run.cancel }
        notes := scene.notes ++ []
        now := time } := by
    intro run stopping running
    refine told.still passed rfl told.distinct rfl (fun _ held => held) (begun _) ?_ nofun
    intro next runs
    cases runs
    exact ⟨run, running, rfl, rfl, rfl⟩
  cases move with
  | worked away moment q notes turn =>
    cases timed away moment rfl
    exact told.turn handed passed turn fails ids
  | expired run running => exact cancelled run _ running
  | calledOff run running => exact cancelled run _ running
  | started absent =>
    exact told.still passed rfl told.distinct rfl (fun _ held => held) (begun _) nofun nofun
  | _ =>
    exact told.still passed rfl told.distinct rfl (fun _ held => held) (begun _)
      (fun run running => ⟨run, running, rfl, rfl, rfl⟩)
      fun copies reclaiming => ⟨copies, reclaiming, List.Sublist.refl _⟩

theorem stores (told : Told id scene) (handed : Handed id scene) {kind : JobKind}
    {time : Timestamp} (new : scene.stored = false) {after : Unreliable History}
    (created : JobStore.create id time kind scene.processor.store = (.ok id, after)) :
    Told id { scene with
      processor := { scene.processor with store := after }, now := time, stored := true } := by
  obtain ⟨inner, fails⟩ := Unreliable.create_spec created
  have unused : some id ∉ scene.processor.store.inner.jobs.map Job.id :=
    History.find?_eq_none_iff.mp (told.unstored new)
  have unbegun : id ∉ Note.beginnings scene.notes := by
    have unsent := handed.unsent new
    rw [handed.begun, List.mem_append, not_or] at unsent
    exact unsent.1
  -- A job that is not stored was handed over to nobody, and so nobody runs it.
  have idle : ∀ run, scene.processor.worker = .running run → run.id ≠ id := by
    rintro run running rfl
    exact unbegun (handed.admission.begun run.id (by rw [running]; rfl))
  have fresh : ∀ job, after.inner.find? id = some job →
      job = { Job.new kind time with id := some id } := by
    intro job held
    rw [inner, History.find?_push told.distinct unused rfl rfl] at held
    exact (Option.some.inj held).symm
  refine ⟨?_, nofun, fun _ job held => fresh job held ▸ rfl, fun copies reclaiming => ?_,
    fun job held => fresh job held ▸ Progress.sound_blank time, told.named,
    fun run running mine => absurd mine (idle run running), fun _ job held => ?_,
    fun _ run running mine => absurd mine (idle run running)⟩
  · rw [inner]
    exact History.push_ids_nodup told.distinct unused rfl
  · obtain ⟨nodup, blank⟩ := told.stranded copies reclaiming
    exact ⟨nodup, fun copy member named =>
      ⟨(blank copy member named).1, fun job held => fresh job held ▸ rfl⟩⟩
  · rw [fresh job held]
    exact ⟨Progress.level_blank.inStep (List.suffix_refl _), nofun⟩

theorem others (told : Told id scene) {after : Unreliable History}
    (fails : after.fails = scene.processor.store.fails)
    (distinct : (after.inner.jobs.map Job.id).Nodup)
    (kept : Job.Kept (scene.held? id) (after.inner.find? id)) :
    Told id { scene with processor := { scene.processor with store := after } } :=
  told.still (Timestamp.le_refl _) fails distinct rfl (fun _ held => kept.eq held)
    (fun unbegun => unbegun)
    (fun run running => ⟨run, running, rfl, rfl, rfl⟩)
    fun copies reclaiming => ⟨copies, reclaiming, List.Sublist.refl _⟩

theorem acts_spent [Stages W] (told : Told id scene) {job : Job} (held : scene.held? id = some job)
    (spent : job.isRunning = false) (event : Event) :
    (scene.processor.step event).1.store.inner.find? id = some job := by
  have move := scene.processor.step_spec event
  generalize (scene.processor.step event).1 = q, (scene.processor.step event).2 = later at move
  have found : ∀ {store : Unreliable History}, store.inner = scene.processor.store.inner →
      store.inner.find? id = some job := by
    intro store inner
    rw [inner]
    exact held
  cases move with
  | worked away moment q notes turn =>
    cases turn with
    | surveyed stranded store surveying answer =>
      exact found (Unreliable.running_inner answer)
    | unsurveyed error store surveying answer =>
      exact found (Unreliable.running_inner answer)
    | began sought looking => exact found (Unreliable.get_spec sought scene.processor.store).1
    | reclaimed copy closed rest reclaiming ended =>
      have applied : copy.apply moment (.close (.error interrupted)) = .ok closed := ended
      refine (Unreliable.update_other (fun mine => ?_) _).trans held
      obtain ⟨_, running⟩ := (told.stranded _ reclaiming).2 copy List.mem_cons_self
        ((Job.apply_id applied).symm.trans mine)
      cases spent.symm.trans (running job held)
    | advanced run q notes running advance =>
      have named := told.named run running
      by_cases mine : run.id = id
      · subst mine
        cases advance with
        | missing change rest error store todo answer => exact found (Unreliable.get_inner answer)
        | declined change rest other error store todo answer applied =>
          exact found (Unreliable.get_inner answer)
        | changed change rest other copy store todo answer applied =>
          exact found (Unreliable.get_inner answer)
        | saved copy rest todo =>
          have copied := (told.writes run running rfl).copied copy (by simp [todo])
          cases spent.symm.trans (copied.2.2 job held)
        | _ => exact held
      · exact ((advance.stamps named).2.2 id (Ne.symm mine)).trans held
    | _ => exact held
  | _ => exact held

end Told

structure Chronicle (id : JobId) (scene : Scene W) : Prop where
  handed : Handed id scene
  told : Told id scene

namespace Chronicle

variable {id : JobId} {scene next : Scene W}

theorem new (timeLimit : Nat) (store : Unreliable History) (world : W) (start : Timestamp)
    (distinct : (store.inner.jobs.map Job.id).Nodup) (unused : store.inner.find? id = none) :
    Chronicle id { processor := Processor.new timeLimit store world, now := start } where
  handed := ⟨.new timeLimit store world, by simp [taken, Note.admissions, Processor.new],
    fun _ => rfl, fun _ => by simp [taken, Note.admissions, Processor.new]⟩
  told := Told.new timeLimit store world start distinct unused

theorem step [Stages W] (chronicle : Chronicle id scene) (step : Next id scene next) :
    Chronicle id next := by
  obtain ⟨handed, told⟩ := chronicle
  cases step with
  | acts event time passed timed once => exact ⟨handed.acts once, told.acts handed passed timed⟩
  | stores kind time passed new after created =>
    refine ⟨⟨?_, handed.once, handed.unstarted, nofun⟩, told.stores handed new created⟩
    exact handed.admission.aside after scene.processor.counters
  | others after fails distinct kept =>
    refine ⟨⟨?_, handed.once, handed.unstarted, handed.unsent⟩, told.others fails distinct kept⟩
    exact handed.admission.aside after scene.processor.counters

theorem run [Stages W] (chronicle : Chronicle id scene)
    (steps : Relation.ReflTransGen (Next id) scene next) : Chronicle id next := by
  induction steps with
  | refl => exact chronicle
  | tail _ step ih => exact ih.step step

theorem spent [Stages W] (chronicle : Chronicle id scene) {job : Job}
    (held : scene.held? id = some job) (spent : job.isRunning = false)
    (steps : Relation.ReflTransGen (Next id) scene next) :
    next.stored = true ∧ (next.held? id = some job ∨ next.held? id = none) := by
  induction steps with
  | refl =>
    refine ⟨?_, .inl held⟩
    by_contra unstored
    cases held.symm.trans (chronicle.told.unstored (by simpa using unstored))
  | @tail scene next past step ih =>
    obtain ⟨stored, here⟩ := ih
    have told := (chronicle.run past).told
    cases step with
    | acts event time passed timed once =>
      refine ⟨stored, here.imp (fun held => told.acts_spent held spent event) fun none => ?_⟩
      rw [held?, History.find?_eq_none_iff, scene.processor.step_stored event]
      exact History.find?_eq_none_iff.mp none
    | stores kind time passed new after created => cases stored.symm.trans new
    | others after fails distinct kept =>
      refine ⟨stored, ?_⟩
      rcases kept with same | ⟨none, _⟩
      · exact here.imp same.trans same.trans
      · exact .inr none

end Chronicle

theorem Next.fails [Stages W] {id : JobId} {scene next : Scene W}
    (steps : Relation.ReflTransGen (Next id) scene next) :
    next.processor.store.fails = scene.processor.store.fails := by
  induction steps with
  | refl => rfl
  | tail _ step ih =>
    refine Eq.trans ?_ ih
    cases step with
    | acts event time passed timed once => exact Processor.step_fails _ event
    | stores kind time passed new after created => exact (Unreliable.create_spec created).2
    | others after fails distinct kept => exact fails

/-- Whatever calls of the store fail, what is stored of a job tells a consistent story at any
time. -/
theorem stored_stamps_are_consistent [Stages W] (id : JobId) (timeLimit : Nat)
    (store : Unreliable History) (world : W) (start : Timestamp)
    (distinct : (store.inner.jobs.map Job.id).Nodup) (unused : store.inner.find? id = none)
    (scene : Scene W)
    (past : Relation.ReflTransGen (Next id)
      { processor := Processor.new timeLimit store world, now := start } scene)
    (job : Job) (held : scene.held? id = some job) :
    job.progress.Paired ∧ job.progress.Ordered ∧
      (job.isRunning = false → ∀ later, Relation.ReflTransGen (Next id) scene later →
        ∀ after, later.held? id = some after → after = job) ∧
      (store.Unfailing →
        job.progress.InStep ∧ (job.outcome = some .success → job.progress.Complete)) := by
  have chronicle := (Chronicle.new timeLimit store world start distinct unused).run past
  have sound := chronicle.told.sound job held
  refine ⟨sound.paired, sound.ordered, fun spent later steps after has => ?_,
    fun unfailing => chronicle.told.candid (fun number call => ?_) job held⟩
  · rcases (chronicle.spent held spent steps).2 with same | none
    · exact Option.some.inj (has.symm.trans same)
    · cases none.symm.trans has
  · rw [Next.fails past]
    exact unfailing number call

section Lossy

def after [Stages W] (event : Event) (time : Timestamp) (scene : Scene W) : Scene W :=
  { scene with
    processor := (scene.processor.step event).1
    notes := scene.notes ++ (scene.processor.step event).2
    now := time }

def worked [Stages W] (times : List Timestamp) (scene : Scene W) : Scene W :=
  times.foldl (fun scene time => scene.after (.work false time) time) scene

theorem Next.worked [Stages W] (id : JobId) (times : List Timestamp) (scene : Scene W)
    (ordered : (scene.now :: times).Pairwise (· ≤ ·)) :
    Relation.ReflTransGen (Next id) scene (scene.worked times) := by
  induction times generalizing scene with
  | nil => exact .refl
  | cons time times ih =>
    obtain ⟨first, later⟩ := List.pairwise_cons.mp ordered
    refine .head (.acts scene (.work false time) time (first time List.mem_cons_self) ?_ nofun)
      (ih (scene.after (.work false time) time) later)
    rintro away moment same
    cases same
    rfl

def lossy : Unreliable History :=
  { inner := .withCapacity 1, fails := fun number _ => number == 8 }

def before : Scene Scripted := { processor := .new 60 lossy {}, now := ⟨0, 0⟩ }

def awaiting : Scene Scripted := (before.after .start ⟨0, 0⟩).worked [⟨1, 0⟩, ⟨2, 0⟩, ⟨3, 0⟩]

def posted : Scene Scripted :=
  { awaiting with
    processor :=
      { awaiting.processor with
        store := (JobStore.create ⟨1⟩ ⟨4, 0⟩ .serviceDesk awaiting.processor.store).2 }
    now := ⟨4, 0⟩
    stored := true }

def sent : Scene Scripted := (posted.after (.enter ⟨1⟩) ⟨5, 0⟩).after .leave ⟨5, 0⟩

def concluded : Scene Scripted := sent.worked ((List.range 40).map fun n => ⟨6 + n, 0⟩)

theorem past_concluded : Relation.ReflTransGen (Next ⟨1⟩) before concluded := by
  have opened : Relation.ReflTransGen (Next ⟨1⟩) before awaiting :=
    .head (.acts before .start ⟨0, 0⟩ (by decide) nofun nofun) (Next.worked _ _ _ (by decide))
  have stored : Next ⟨1⟩ awaiting posted :=
    .stores awaiting .serviceDesk ⟨4, 0⟩ (by decide +kernel) rfl _
      (Prod.ext (by decide +kernel) rfl)
  have entered : Next ⟨1⟩ posted (posted.after (.enter ⟨1⟩) ⟨5, 0⟩) :=
    .acts posted (.enter ⟨1⟩) ⟨5, 0⟩ (by decide) nofun fun _ => ⟨rfl, by decide +kernel⟩
  have left : Next ⟨1⟩ (posted.after (.enter ⟨1⟩) ⟨5, 0⟩) sent :=
    .acts _ .leave ⟨5, 0⟩ (by decide) nofun nofun
  exact (((opened.tail stored).tail entered).tail left).trans (Next.worked _ _ _ (by decide))

/-- The start of the second phase is lost and its finish therefore refused; the third goes on as if
nothing had happened. -/
theorem lossy_stamps_are_consistent : ∃ job, concluded.held? ⟨1⟩ = some job ∧
    job.outcome = some .success ∧ job.progress.usersDownload = {} ∧
    job.progress.ticketsDownload.finished.isSome = true ∧ job.progress.Paired ∧
    job.progress.Ordered := by
  have stored : (concluded.held? ⟨1⟩).map (fun job => (job.outcome,
      job.progress.usersDownload, job.progress.ticketsDownload.finished.isSome)) =
      some (some .success, {}, true) := by
    decide +kernel
  obtain ⟨job, held, same⟩ := Option.map_eq_some_iff.mp stored
  simp only [Prod.mk.injEq] at same
  obtain ⟨outcome, users, tickets⟩ := same
  obtain ⟨paired, ordered, -, -⟩ := stored_stamps_are_consistent ⟨1⟩ 60 lossy ({} : Scripted)
    ⟨0, 0⟩ (by decide) (by decide) concluded past_concluded job held
  exact ⟨job, held, outcome, users, tickets, paired, ordered⟩

end Lossy

end Scene

end TicketReports
