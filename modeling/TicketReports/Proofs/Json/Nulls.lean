import Mathlib.Data.List.Forall2
import TicketReports.Json.Basic

set_option autoImplicit false

namespace TicketReports.Json

/-- A field of a record: whether nulls are put in its place, and how its value may change. -/
structure Field where
  name : String
  nullable : Bool
  change : Json → Json → Prop := Eq

inductive FilledItems : List Field → List Json → List Json → Prop
  | nil {fields} : FilledItems fields [] []
  | item {field fields old olds new news} (changed : field.change old new)
    (rest : FilledItems fields olds news) :
    FilledItems (field :: fields) (old :: olds) (new :: news)
  | null {field fields news} (nullable : field.nullable = true)
    (rest : FilledItems fields [] news) : FilledItems (field :: fields) [] (.null :: news)

/-- A record with nulls for some of the nullable fields that it leaves out. The members of an object
may come in another order, and those that no field names are free. -/
inductive Filled (fields : List Field) : Json → Json → Prop
  | object {old kept new : List (Option String × Json)} {added : List String}
    (changed : List.Forall₂ (fun old new => new.1 = old.1 ∧
      ∀ field ∈ fields, old.1 = some field.name → field.change old.2 new.2) old kept)
    (distinct : added.Nodup)
    (missing : ∀ name ∈ added, some name ∉ old.map Prod.fst ∧
      ∀ field ∈ fields, field.name = name → field.nullable = true)
    (whole : new.Perm (kept ++ added.map fun name => (some name, null))) :
    Filled fields (.object old) (.object new)
  | array {old new : List Json} (items : FilledItems fields old new) :
    Filled fields (.array old) (.array new)

inductive Each (change : Json → Json → Prop) : Json → Json → Prop
  | array {old new : List Json} (items : List.Forall₂ change old new) :
    Each change (.array old) (.array new)

theorem Each.list?_eq {α : Type} {change : Json → Json → Prop} {read : Json → Option α}
    (alike : ∀ old new, change old new → read new = read old) {old new : Json}
    (each : Each change old new) : list? read new = list? read old := by
  obtain ⟨items⟩ := each
  rw [list?, list?]
  induction items with
  | nil => rfl
  | cons head _ ih => rw [List.mapM_cons, List.mapM_cons, alike _ _ head, ih]

inductive FilledSlot (field : Field) : Slot → Slot → Prop
  | given {old new} (changed : field.change old new) : FilledSlot field (.given old) (.given new)
  | absent : FilledSlot field .absent .absent
  | pastEnd : FilledSlot field .pastEnd .pastEnd
  | nullAbsent (nullable : field.nullable = true) : FilledSlot field .absent (.given .null)
  | nullPastEnd (nullable : field.nullable = true) : FilledSlot field .pastEnd (.given .null)

namespace FilledSlot

variable {α : Type} {field : Field} {old new : Slot} (slot : FilledSlot field old new)
  {read : Json → Option α}
include slot

theorem lenient (kept : field.change = Eq) : new.lenient read = old.lenient read := by
  cases slot with
  | given changed =>
    rw [kept] at changed
    rw [changed]
  | absent | pastEnd | nullAbsent | nullPastEnd => rfl

theorem required (needed : field.nullable = false) (kept : field.change = Eq) :
    new.required read = old.required read := by
  cases slot with
  | given changed =>
    rw [kept] at changed
    rw [changed]
  | absent | pastEnd => rfl
  | nullAbsent nullable | nullPastEnd nullable => simp [needed] at nullable

theorem defaulting (default : α) (needed : field.nullable = false)
    (alike : ∀ old new, field.change old new → read new = read old) :
    new.defaulting default read = old.defaulting default read := by
  cases slot with
  | given changed => exact alike _ _ changed
  | absent | pastEnd => rfl
  | nullAbsent nullable | nullPastEnd nullable => simp [needed] at nullable

end FilledSlot

inductive FilledSlots : List Field → List Slot → List Slot → Prop
  | nil : FilledSlots [] [] []
  | cons {field fields old olds new news} (slot : FilledSlot field old new)
    (rest : FilledSlots fields olds news) :
    FilledSlots (field :: fields) (old :: olds) (new :: news)

section Members

variable {old kept new : List (Option String × Json)} {name : String}

def slotOf : List (Option String × Json) → Option Slot
  | [] => some .absent
  | [member] => some (.given member.2)
  | _ => none

theorem memberSlot_eq (members : List (Option String × Json)) (name : String) :
    memberSlot members name = slotOf (members.filter fun member => member.1 == some name) := by
  unfold memberSlot slotOf
  rfl

theorem slotOf_perm {front back : List (Option String × Json)} (perm : front.Perm back) :
    slotOf front = slotOf back := by
  match back with
  | [] => rw [perm.eq_nil]
  | [member] => rw [perm.eq_singleton]
  | first :: second :: rest =>
    match front with
    | [] => exact absurd perm.symm.eq_nil (by simp)
    | [member] => exact absurd perm.symm.eq_singleton (by simp)
    | _ :: _ :: _ => rfl

theorem slotOf_changed {field : Field}
    (changed : List.Forall₂ (fun old new => field.change old.2 new.2) old new) :
    Option.Rel (FilledSlot field) (slotOf old) (slotOf new) := by
  match changed with
  | .nil => exact .some .absent
  | .cons change .nil => exact .some (.given change)
  | .cons _ (.cons _ _) => exact .none

theorem filter_changed {field : Field}
    (changed : List.Forall₂ (fun old new => new.1 = old.1 ∧
      (old.1 = some field.name → field.change old.2 new.2)) old kept) :
    List.Forall₂ (fun old new => field.change old.2 new.2)
      (old.filter fun member => member.1 == some field.name)
      (kept.filter fun member => member.1 == some field.name) := by
  induction changed with
  | nil => exact .nil
  | cons head _ ih =>
    obtain ⟨name, change⟩ := head
    rw [List.filter_cons, List.filter_cons, name]
    split
    next here => exact .cons (change (eq_of_beq here)) ih
    next => exact ih

theorem filter_added {added : List String} (distinct : added.Nodup) (name : String) :
    (added.map fun name => (some name, null)).filter (fun member => member.1 == some name) =
      if name ∈ added then [(some name, null)] else [] := by
  have same : ((fun member : Option String × Json => member.1 == some name) ∘
      fun name => (some name, null)) = (· == name) := rfl
  rw [List.filter_map, same, List.filter_beq]
  split
  next member =>
    rw [distinct.count, if_pos member]
    rfl
  next other =>
    rw [List.count_eq_zero_of_not_mem other]
    rfl

theorem memberSlot_filled {field : Field} {added : List String}
    (changed : List.Forall₂ (fun old new => new.1 = old.1 ∧
      (old.1 = some field.name → field.change old.2 new.2)) old kept)
    (distinct : added.Nodup)
    (missing : ∀ name ∈ added, some name ∉ old.map Prod.fst ∧
      (field.name = name → field.nullable = true))
    (whole : new.Perm (kept ++ added.map fun name => (some name, null))) :
    Option.Rel (FilledSlot field) (memberSlot old field.name) (memberSlot new field.name) := by
  have split := slotOf_perm (whole.filter fun member => member.1 == some field.name)
  rw [List.filter_append, filter_added distinct] at split
  rw [memberSlot_eq, memberSlot_eq, split]
  have known := filter_changed changed
  by_cases here : field.name ∈ added
  · obtain ⟨unnamed, nullable⟩ := missing field.name here
    have none : (old.filter fun member => member.1 == some field.name) = [] := by
      refine List.filter_eq_nil_iff.mpr fun member among named => unnamed ?_
      exact List.mem_map.mpr ⟨member, among, eq_of_beq named⟩
    rw [none] at known ⊢
    rw [List.forall₂_nil_left_iff.mp known, if_pos here]
    exact .some (.nullAbsent (nullable rfl))
  · rw [if_neg here, List.append_nil]
    exact slotOf_changed known

end Members

theorem cons_filled {field : Field} {fields : List Field} {old new : Option Slot}
    {olds news : Option (List Slot)} (slot : Option.Rel (FilledSlot field) old new)
    (rest : Option.Rel (FilledSlots fields) olds news) :
    Option.Rel (FilledSlots (field :: fields)) (old.bind fun slot => olds.map (slot :: ·))
      (new.bind fun slot => news.map (slot :: ·)) := by
  cases slot with
  | none => exact .none
  | some slot =>
    cases rest with
    | none => exact .none
    | some rest => exact .some (.cons slot rest)

theorem arraySlots_nil (fields : List Field) :
    Option.Rel (FilledSlots fields) (arraySlots (fields.map Field.name) [])
      (arraySlots (fields.map Field.name) []) := by
  induction fields with
  | nil => exact .some .nil
  | cons field fields ih => exact cons_filled (.some .pastEnd) ih

theorem arraySlots_filled {fields : List Field} {old new : List Json}
    (items : FilledItems fields old new) :
    Option.Rel (FilledSlots fields) (arraySlots (fields.map Field.name) old)
      (arraySlots (fields.map Field.name) new) := by
  induction items with
  | nil => exact arraySlots_nil _
  | item changed _ ih => exact cons_filled (.some (.given changed)) ih
  | null nullable _ ih => exact cons_filled (.some (.nullPastEnd nullable)) ih

theorem mapM_filled {fields : List Field} {old new : List (Option String × Json)}
    (each : ∀ field ∈ fields,
      Option.Rel (FilledSlot field) (memberSlot old field.name) (memberSlot new field.name)) :
    Option.Rel (FilledSlots fields) ((fields.map Field.name).mapM (memberSlot old))
      ((fields.map Field.name).mapM (memberSlot new)) := by
  induction fields with
  | nil => exact .some .nil
  | cons field fields ih =>
    obtain ⟨head, rest⟩ := List.forall_mem_cons.mp each
    simp only [List.map_cons, List.mapM_cons, Option.bind_eq_bind, Option.pure_def,
      ← Function.comp_def some, ← Option.map_eq_bind]
    exact cons_filled head (ih rest)

theorem slots?_filled {fields : List Field} {old new : Json} (filled : Filled fields old new) :
    Option.Rel (FilledSlots fields) (old.slots? (fields.map Field.name))
      (new.slots? (fields.map Field.name)) := by
  cases filled with
  | array items => exact arraySlots_filled items
  | @object old kept new added changed distinct missing whole =>
    have named : (new.all fun member => member.1.isSome) =
        old.all fun member => member.1.isSome := by
      rw [whole.all_eq, List.all_append, List.all_map]
      have unchanged : (kept.all fun member => member.1.isSome) =
          old.all fun member => member.1.isSome := by
        clear whole missing
        induction changed with
        | nil => rfl
        | cons head _ ih => rw [List.all_cons, List.all_cons, head.1, ih]
      rw [unchanged]
      simp
    rw [slots?, slots?, named]
    split
    next =>
      refine mapM_filled fun field among => memberSlot_filled ?_ distinct ?_ whole
      · exact changed.imp fun _ _ member => ⟨member.1, member.2 field among⟩
      · exact fun name added => ⟨(missing name added).1, (missing name added).2 field among⟩
    next => exact .none

theorem Filled.read_eq {α : Type} {fields : List Field} {old new : Json}
    (filled : Filled fields old new) {build : List Slot → Option α}
    (alike : ∀ olds news, FilledSlots fields olds news → build news = build olds) :
    (new.slots? (fields.map Field.name) >>= build) =
      old.slots? (fields.map Field.name) >>= build := by
  have places := slots?_filled filled
  revert places
  generalize old.slots? (fields.map Field.name) = olds
  generalize new.slots? (fields.map Field.name) = news
  intro places
  cases places with
  | none => rfl
  | some places => exact alike _ _ places

/-- A record whose field of that name, the one at that place of an array, is null. -/
inductive NullAt (name : String) (place : Nat) : Json → Prop
  | object {members : List (Option String × Json)} (member : (some name, null) ∈ members) :
    NullAt name place (.object members)
  | array {items : List Json} (item : items[place]? = some null) : NullAt name place (.array items)

theorem memberSlot_null {members : List (Option String × Json)} {name : String} {slot : Slot}
    (member : (some name, null) ∈ members) (found : memberSlot members name = some slot) :
    slot = .given null := by
  have among : (some name, null) ∈ members.filter fun member => member.1 == some name :=
    List.mem_filter.mpr ⟨member, beq_self_eq_true _⟩
  rw [memberSlot_eq] at found
  match here : members.filter fun member => member.1 == some name with
  | [] => simp [here] at among
  | [one] =>
    rw [here, List.mem_singleton] at among
    rw [here, ← among] at found
    exact (Option.some.inj found).symm
  | first :: second :: rest => simp [here, slotOf] at found

section Places

variable {names : List String} {name : String} {place : Nat} {slots : List Slot}
  (named : names[place]? = some name)
include named

theorem mapM_null {members : List (Option String × Json)} (member : (some name, null) ∈ members)
    (placed : names.mapM (memberSlot members) = some slots) :
    slots[place]? = some (.given null) := by
  induction names generalizing place slots with
  | nil => simp at named
  | cons head rest ih =>
    simp only [List.mapM_cons, Option.bind_eq_bind, Option.bind_eq_some_iff, Option.pure_def,
      Option.some.injEq] at placed
    obtain ⟨slot, found, others, later, rfl⟩ := placed
    cases place with
    | zero =>
      cases named
      rw [memberSlot_null member found, List.getElem?_cons_zero]
    | succ place =>
      rw [List.getElem?_cons_succ] at named ⊢
      exact ih named later

theorem arraySlots_null {items : List Json} (item : items[place]? = some null)
    (placed : arraySlots names items = some slots) : slots[place]? = some (.given null) := by
  induction names generalizing place slots items with
  | nil => simp at named
  | cons head rest ih =>
    cases items with
    | nil => simp at item
    | cons first items =>
      obtain ⟨others, later, rfl⟩ := Option.map_eq_some_iff.mp placed
      cases place with
      | zero =>
        cases item
        rfl
      | succ place =>
        rw [List.getElem?_cons_succ] at named item ⊢
        exact ih named item later

theorem NullAt.slot {value : Json} (empty : NullAt name place value)
    (placed : value.slots? names = some slots) : slots[place]? = some (.given null) := by
  cases empty with
  | array item => exact arraySlots_null named item placed
  | object member =>
    rw [slots?] at placed
    split at placed
    next => exact mapM_null named member placed
    next => cases placed

end Places

end TicketReports.Json
