import TicketReports.Job.Record
import TicketReports.Proofs.Job.Naming
import TicketReports.Proofs.JobStore.Rows
import TicketReports.Proofs.Time.Moments

set_option autoImplicit false

namespace TicketReports

section Lookup

variable {κ α : Type} [DecidableEq κ] {members : List (κ × α)}

theorem lookup_map_value {β : Type} (change : α → β) (name : κ) :
    (members.map fun (name, value) => (name, change value)).lookup name =
      (members.lookup name).map change := by
  induction members with
  | nil => rfl
  | cons head rest ih =>
    rw [List.map_cons, List.lookup_cons, List.lookup_cons, ih]
    cases name == head.1 <;> rfl

variable (distinct : (members.map Prod.fst).Nodup) {name : κ} {value : α}
include distinct

theorem lookup_eq_some_iff_mem : members.lookup name = some value ↔ (name, value) ∈ members := by
  induction members with
  | nil => simp
  | cons head rest ih =>
    obtain ⟨unshared, distinct⟩ := List.nodup_cons.mp distinct
    by_cases here : name = head.1
    · subst here
      have elsewhere : (head.1, value) ∉ rest := fun later =>
        unshared (List.mem_map.mpr ⟨_, later, rfl⟩)
      rw [List.lookup_cons, beq_self_eq_true, List.mem_cons, or_iff_left elsewhere]
      exact ⟨fun same => Prod.ext rfl (Option.some.inj same).symm,
        fun same => congrArg (some ·.2) same.symm⟩
    · have other : (name, value) ≠ head := fun same => here (congrArg Prod.fst same)
      rw [List.lookup_cons, beq_false_of_ne here, List.mem_cons, or_iff_right other]
      exact ih distinct

end Lookup

namespace Json

def member? (name : String) : Json → Option Json
  | .object members => members.lookup (some name)
  | _ => none

theorem member?_record (name : String) (members : List (String × Json)) :
    (record members).member? name = members.lookup name := by
  rw [record, member?]
  induction members with
  | nil => rfl
  | cons member rest ih =>
    rw [List.map_cons, List.lookup_cons, List.lookup_cons, ih]
    rfl

theorem ofText_injective : Function.Injective ofText := fun _ _ same =>
  Option.some.inj (Json.string.inj same)

end Json

def given (parts : List (String × Option String)) : List (String × String) :=
  parts.filterMap fun (name, part) => part.map (name, ·)

section Given

variable {parts : List (String × Option String)}

theorem mem_given {name text : String} :
    (name, text) ∈ given parts ↔ (name, some text) ∈ parts := by
  simp [given]

theorem given_names_sublist : ((given parts).map Prod.fst).Sublist (parts.map Prod.fst) := by
  induction parts with
  | nil => exact .slnil
  | cons part rest ih =>
    obtain ⟨name, _ | text⟩ := part
    · exact .cons _ ih
    · exact .cons_cons _ ih

theorem given_append (front back : List (String × Option String)) :
    given (front ++ back) = given front ++ given back :=
  List.filterMap_append

theorem given_single {α : Type} (name : String) (text : α → String) (part : Option α) :
    given [(name, part.map text)] = (part.map fun value => (name, text value)).toList := by
  cases part <;> rfl

variable (distinct : (parts.map Prod.fst).Nodup) {name : String} {part : Option String}
  (member : (name, part) ∈ parts)
include distinct member

theorem lookup_given : (given parts).lookup name = part := by
  refine Option.ext fun text => ?_
  rw [lookup_eq_some_iff_mem (distinct.sublist given_names_sublist), mem_given]
  constructor
  · intro present
    have same := List.inj_on_of_nodup_map distinct member present rfl
    exact congrArg Prod.snd same
  · rintro rfl
    exact member

theorem mem_given_names : name ∈ (given parts).map Prod.fst ↔ part.isSome = true := by
  rw [← lookup_given distinct member, Option.isSome_iff_exists]
  simp only [lookup_eq_some_iff_mem (distinct.sublist given_names_sublist), List.mem_map,
    Prod.exists, exists_and_right, exists_eq_right]

end Given

theorem JobId.text_injective : Function.Injective JobId.text := fun a b same =>
  Except.ok.inj (by rw [← a.read_text, same, b.read_text])

theorem JobKind.name_injective : Function.Injective JobKind.name := fun a b same =>
  Option.some.inj (by rw [← a.ofName?_name, same, b.ofName?_name])

theorem FinalStatus.text_injective : Function.Injective FinalStatus.text := fun a b same =>
  Except.ok.inj (by rw [← a.read_text, same, b.read_text])

namespace Job

def stampParts (job : Job) (phase : Phase) : List (String × Option String) :=
  let stamps := job.progress.get phase
  [(phase.startedKey, stamps.started.map Timestamp.rfc3339),
    (phase.finishedKey, stamps.finished.map Timestamp.rfc3339)]

def parts (job : Job) : List (String × Option String) :=
  [("uuid", job.id.map JobId.text)] ++
    [("type", some job.kind.name), ("created_at", some job.createdAt.rfc3339)] ++
    Phase.all.flatMap job.stampParts ++
    [("final_status", job.outcome.map FinalStatus.text)]

def partNames : List String :=
  ["uuid", "type", "created_at"] ++
    Phase.all.flatMap (fun phase => [phase.startedKey, phase.finishedKey]) ++ ["final_status"]

theorem parts_names (job : Job) : job.parts.map Prod.fst = partNames := rfl

theorem parts_distinct (job : Job) : (job.parts.map Prod.fst).Nodup := by
  rw [parts_names]
  decide

theorem stampFields_eq (job : Job) (phase : Phase) :
    job.stampFields phase = given (job.stampParts phase) := by
  rw [stampFields, ← given_single, ← given_single, ← given_append]
  rfl

theorem fields_eq (job : Job) : job.fields = given job.parts := by
  have stamps : given (Phase.all.flatMap job.stampParts) = Phase.all.flatMap job.stampFields := by
    rw [given, List.filterMap_flatMap]
    exact List.flatMap_congr fun phase _ => (job.stampFields_eq phase).symm
  rw [parts, given_append, given_append, given_append, given_single, given_single, stamps]
  rfl

theorem member?_toJson (job : Job) {name : String} {part : Option String}
    (member : (name, part) ∈ job.parts) : job.toJson.member? name = part.map .ofText := by
  rw [toJson, Json.member?_record, lookup_map_value, fields_eq,
    lookup_given job.parts_distinct member]

theorem part_eq {a b : Job} (same : ∀ name, a.toJson.member? name = b.toJson.member? name)
    {name : String} {part other : Option String} (member : (name, part) ∈ a.parts)
    (member' : (name, other) ∈ b.parts) : part = other := by
  have values := same name
  rw [a.member?_toJson member, b.member?_toJson member'] at values
  exact Option.map_injective Json.ofText_injective values

theorem uuid_mem_parts (job : Job) : ("uuid", job.id.map JobId.text) ∈ job.parts := by
  simp [parts]

theorem type_mem_parts (job : Job) : ("type", some job.kind.name) ∈ job.parts := by
  simp [parts]

theorem createdAt_mem_parts (job : Job) :
    ("created_at", some job.createdAt.rfc3339) ∈ job.parts := by
  simp [parts]

theorem finalStatus_mem_parts (job : Job) :
    ("final_status", job.outcome.map FinalStatus.text) ∈ job.parts := by
  simp [parts]

theorem mem_parts_of_stamp {job : Job} {phase : Phase} {part : String × Option String}
    (stamp : part ∈ job.stampParts phase) : part ∈ job.parts :=
  List.mem_append_left _ (List.mem_append_right _
    (List.mem_flatMap.mpr ⟨phase, phase.mem_all, stamp⟩))

theorem started_mem_parts (job : Job) (phase : Phase) :
    (phase.startedKey, (job.progress.get phase).started.map Timestamp.rfc3339) ∈ job.parts :=
  mem_parts_of_stamp List.mem_cons_self

theorem finished_mem_parts (job : Job) (phase : Phase) :
    (phase.finishedKey, (job.progress.get phase).finished.map Timestamp.rfc3339) ∈ job.parts :=
  mem_parts_of_stamp (List.mem_cons_of_mem _ List.mem_cons_self)

def moments (job : Job) : Set Timestamp :=
  {t | t = job.createdAt ∨ ∃ phase, (job.progress.get phase).started = some t ∨
    (job.progress.get phase).finished = some t}

/-- The names of the members of a job's object: one for each part that is set. -/
structure Named (job : Job) (names : List String) : Prop where
  distinct : names.Nodup
  kind : "type" ∈ names
  createdAt : "created_at" ∈ names
  id : "uuid" ∈ names ↔ job.id.isSome
  outcome : "final_status" ∈ names ↔ job.outcome.isSome
  started : ∀ phase : Phase,
    phase.name ++ "_started_at" ∈ names ↔ (job.progress.get phase).started.isSome
  finished : ∀ phase : Phase,
    phase.name ++ "_finished_at" ∈ names ↔ (job.progress.get phase).finished.isSome
  noOthers : ∀ name ∈ names, name ∈ ["uuid", "type", "created_at", "final_status"] ∨
    ∃ phase : Phase, name = phase.name ++ "_started_at" ∨ name = phase.name ++ "_finished_at"

theorem mem_partNames {name : String} (member : name ∈ partNames) :
    name ∈ ["uuid", "type", "created_at", "final_status"] ∨
      ∃ phase : Phase, name = phase.startedKey ∨ name = phase.finishedKey := by
  simp only [partNames, List.mem_append, List.mem_flatMap] at member
  rcases member with (first | ⟨phase, _, stamp⟩) | last
  · exact .inl (List.mem_append_left ["final_status"] first)
  · exact .inr ⟨phase, by simpa using stamp⟩
  · exact .inl (List.mem_append_right ["uuid", "type", "created_at"] last)

theorem fields_named (job : Job) : job.Named (job.fields.map Prod.fst) := by
  rw [fields_eq]
  have set {name : String} {part : Option String} (member : (name, part) ∈ job.parts) :=
    mem_given_names job.parts_distinct member
  exact
    { distinct := job.parts_distinct.sublist given_names_sublist
      kind := (set job.type_mem_parts).mpr rfl
      createdAt := (set job.createdAt_mem_parts).mpr rfl
      id := (set job.uuid_mem_parts).trans (by rw [Option.isSome_map])
      outcome := (set job.finalStatus_mem_parts).trans (by rw [Option.isSome_map])
      started := fun phase => (set (job.started_mem_parts phase)).trans (by rw [Option.isSome_map])
      finished := fun phase =>
        (set (job.finished_mem_parts phase)).trans (by rw [Option.isSome_map])
      noOthers := fun name member => mem_partNames (given_names_sublist.subset member) }

theorem stamp_eq {moments : Set Timestamp} (apart : Set.InjOn Timestamp.rfc3339 moments)
    {a b : Option Timestamp} (known : ∀ t, a = some t → t ∈ moments)
    (known' : ∀ t, b = some t → t ∈ moments)
    (same : a.map Timestamp.rfc3339 = b.map Timestamp.rfc3339) : a = b := by
  cases a with
  | none => exact (Option.map_eq_none_iff.mp same.symm).symm
  | some t =>
    obtain ⟨t', rfl, text⟩ := Option.map_eq_some_iff.mp same.symm
    rw [apart (known t rfl) (known' t' rfl) text.symm]

theorem eq_of_members {moments : Set Timestamp} (apart : Set.InjOn Timestamp.rfc3339 moments)
    {a b : Job} (known : a.moments ⊆ moments) (known' : b.moments ⊆ moments)
    (same : ∀ name, a.toJson.member? name = b.toJson.member? name) : a = b := by
  have id : a.id = b.id :=
    Option.map_injective JobId.text_injective (part_eq same a.uuid_mem_parts b.uuid_mem_parts)
  have kind : a.kind = b.kind :=
    JobKind.name_injective (Option.some.inj (part_eq same a.type_mem_parts b.type_mem_parts))
  have createdAt : a.createdAt = b.createdAt :=
    apart (known (.inl rfl)) (known' (.inl rfl))
      (Option.some.inj (part_eq same a.createdAt_mem_parts b.createdAt_mem_parts))
  have outcome : a.outcome = b.outcome :=
    Option.map_injective FinalStatus.text_injective
      (part_eq same a.finalStatus_mem_parts b.finalStatus_mem_parts)
  have stamps : ∀ phase, a.progress.get phase = b.progress.get phase := fun phase => by
    have started : (a.progress.get phase).started = (b.progress.get phase).started :=
      stamp_eq apart (fun t set => known (.inr ⟨phase, .inl set⟩))
        (fun t set => known' (.inr ⟨phase, .inl set⟩))
        (part_eq same (a.started_mem_parts phase) (b.started_mem_parts phase))
    have finished : (a.progress.get phase).finished = (b.progress.get phase).finished :=
      stamp_eq apart (fun t set => known (.inr ⟨phase, .inr set⟩))
        (fun t set => known' (.inr ⟨phase, .inr set⟩))
        (part_eq same (a.finished_mem_parts phase) (b.finished_mem_parts phase))
    exact congrArg₂ Stamps.mk started finished
  show Job.mk a.id a.kind a.createdAt a.progress a.outcome =
    Job.mk b.id b.kind b.createdAt b.progress b.outcome
  rw [id, kind, createdAt, outcome, Progress.ext_get stamps]

/-- Jobs whose objects have the same members are the same job, and an object has exactly the members
of what is set. -/
theorem objects_tell_jobs_apart :
    Set.InjOn Timestamp.rfc3339 {t | t.Valid} ∧
    (∀ moments : Set Timestamp, Set.InjOn Timestamp.rfc3339 moments → ∀ a b : Job,
      a.moments ⊆ moments → b.moments ⊆ moments →
        (∀ name, a.toJson.member? name = b.toJson.member? name) → a = b) ∧
    ∀ job : Job, ∃ members,
      job.toJson = .record members ∧ job.Named (members.map Prod.fst) := by
  refine ⟨Timestamp.rfc3339_injOn,
    fun moments apart a b known known' same => eq_of_members apart known known' same,
    fun job => ⟨_, rfl, ?_⟩⟩
  rw [List.map_map]
  exact job.fields_named

def hasty (now : Timestamp) (status : FinalStatus) : Job :=
  { kind := .serviceDesk
    createdAt := now
    progress := { mailSending := { started := some now } }
    outcome := some status }

theorem hasty_moments {now : Timestamp} (valid : now.Valid) (status : FinalStatus) :
    (hasty now status).moments ⊆ {t | t.Valid} := by
  rintro t (rfl | ⟨phase, set | set⟩)
  · exact valid
  · cases phase <;> cases set
    exact valid
  · cases phase <;> cases set

/-- The leap second at the end of 2016 and the second that follows it. The detail of one status
spells the other one. -/
theorem objects_tell_leap_second_apart :
    let leap := hasty ⟨1483228799, 1000000000⟩ (.error "Success")
    let next := hasty ⟨1483228800, 0⟩ .success
    leap.moments ⊆ {t | t.Valid} ∧ next.moments ⊆ {t | t.Valid} ∧
      (∃ name, leap.toJson.member? name ≠ next.toJson.member? name) ∧
      ∃ members, leap.toJson = .record members ∧ leap.Named (members.map Prod.fst) := by
  intro leap next
  have known := @hasty_moments ⟨1483228799, 1000000000⟩ (by decide) (.error "Success")
  have known' := @hasty_moments ⟨1483228800, 0⟩ (by decide) .success
  obtain ⟨valid, apart, named⟩ := objects_tell_jobs_apart
  refine ⟨known, known', not_forall.mp fun same => ?_, named leap⟩
  exact absurd (apart _ valid leap next known known' same) (by decide)

end Job

end TicketReports
