import Mathlib.Data.List.Forall2
import TicketReports.Proofs.Settings.Keys
import TicketReports.Proofs.Text.Blank
import TicketReports.Proofs.Text.Split

set_option autoImplicit false

namespace TicketReports

namespace Settings

open Text

/-- An address as it stands in the settings. -/
structure Tidy (recipient : String) : Prop where
  nonempty : recipient ≠ ""
  undivided : ',' ∉ recipient.toList
  bare : Bare recipient.toList

-- A text between two commas, and the addresses in it: none or one.
inductive Entry : List Char → List String → Prop where
  | empty {part : List Char} (blank : Blank part) : Entry part []
  | address {part : List Char} {recipient : String} (padded : Padded recipient.toList part) :
    Entry part [recipient]

/-- A text that lists the addresses, with commas between them and perhaps more commas and white
space. -/
inductive Lists : List Char → List String → Prop where
  | last {part : List Char} {list : List String} (entry : Entry part list) : Lists part list
  | next {part text : List Char} {first later : List String} (entry : Entry part first)
    (rest : Lists text later) : Lists (part ++ ',' :: text) (first ++ later)

section Parts

variable {part text : List Char} {list : List String}

def addresses (parts : List (List Char)) : List String :=
  ((parts.map trimmed).filter (!·.isEmpty)).map String.ofList

theorem recipients_eq (text : String) : recipients text = addresses (text.toList.splitOn ',') := by
  rw [recipients, splitAll_eq_splitOn, addresses]

theorem addresses_cons (part : List Char) (parts : List (List Char)) :
    addresses (part :: parts) = addresses [part] ++ addresses parts := by
  rw [← List.singleton_append]
  simp only [addresses, List.map_append, List.filter_append]

theorem addresses_blank (blank : Blank part) : addresses [part] = [] := by
  simp [addresses, trimmed_eq_nil_iff.mpr blank]

theorem addresses_padded {recipient : String} (padded : Padded recipient.toList part)
    (nonempty : recipient ≠ "") : addresses [part] = [recipient] := by
  have some' : recipient.toList ≠ [] := by simpa using nonempty
  simp [addresses, padded.trimmed_eq, some']

theorem addresses_of_not_blank (some' : ¬Blank part) :
    addresses [part] = [String.ofList (trimmed part)] := by
  have nonempty : trimmed part ≠ [] := fun nothing => some' (trimmed_eq_nil_iff.mp nothing)
  simp [addresses, nonempty]

theorem entry_addresses (part : List Char) : Entry part (addresses [part]) := by
  by_cases blank : Blank part
  · rw [addresses_blank blank]
    exact .empty blank
  · rw [addresses_of_not_blank blank]
    apply Entry.address
    rw [String.toList_ofList]
    exact padded_trimmed part

theorem Entry.addresses_eq (entry : Entry part list) (tidy : ∀ r ∈ list, Tidy r) :
    addresses [part] = list := by
  cases entry with
  | empty blank => exact addresses_blank blank
  | address padded => exact addresses_padded padded (tidy _ List.mem_cons_self).nonempty

theorem Entry.undivided (entry : Entry part list) (tidy : ∀ r ∈ list, Tidy r) : ',' ∉ part := by
  have comma : ∀ {blank : List Char}, Blank blank → ',' ∉ blank := fun blank member =>
    absurd (blank ',' member) (by decide)
  cases entry with
  | empty blank => exact comma blank
  | address padded =>
    cases padded with
    | mk before after =>
      have held := (tidy _ List.mem_cons_self).undivided
      simp [comma before, comma after, held]

theorem padded_addresses (parts : List (List Char)) :
    List.Forall₂ (fun part recipient => Padded recipient.toList part)
      (parts.filter fun part => !part.all isBlank) (addresses parts) := by
  induction parts with
  | nil => exact .nil
  | cons part rest ih =>
    rw [addresses_cons]
    by_cases blank : Blank part
    · -- The part is left out on both sides.
      have none' : part.all isBlank = true := List.all_eq_true.mpr blank
      simpa [addresses_blank blank, none'] using ih
    · have some' : part.all isBlank = false := by
        simpa [Blank] using blank
      rw [addresses_of_not_blank blank]
      simpa [some', padded_trimmed] using ih

theorem tidy_recipients (text : String) : ∀ recipient ∈ recipients text, Tidy recipient := by
  intro recipient member
  rw [recipients_eq] at member
  obtain ⟨held, kept, rfl⟩ := List.mem_map.mp member
  obtain ⟨trimmed', nonempty⟩ := List.mem_filter.mp kept
  obtain ⟨part, inside, rfl⟩ := List.mem_map.mp trimmed'
  have padded := padded_trimmed part
  have undivided := not_mem_of_mem_splitOn inside
  refine ⟨by simpa using nonempty, ?_, ?_⟩
  · rw [String.toList_ofList]
    intro comma
    generalize trimmed part = bare at padded comma
    cases padded
    simp [comma] at undivided
  · rw [String.toList_ofList]
    generalize trimmed part = bare at padded
    cases padded with
    | mk before after bare => exact bare

theorem lists_addresses {parts : List (List Char)} (nonempty : parts ≠ []) :
    Lists ([','].intercalate parts) (addresses parts) := by
  induction parts with
  | nil => exact absurd rfl nonempty
  | cons part rest ih =>
    cases rest with
    | nil => simpa using Lists.last (entry_addresses part)
    | cons next later =>
      have entry := entry_addresses part
      rw [addresses_cons, List.intercalate_cons_cons]
      simpa using Lists.next entry (ih (List.cons_ne_nil next later))

theorem Lists.addresses_eq (lists : Lists text list) (tidy : ∀ r ∈ list, Tidy r) :
    addresses (text.splitOn ',') = list := by
  induction lists with
  | last entry =>
    rw [List.splitOn_eq_singleton (entry.undivided tidy), entry.addresses_eq tidy]
  | next entry rest ih =>
    obtain ⟨here, later⟩ := List.forall_mem_append.mp tidy
    rw [List.splitOn_append_cons_self_of_not_mem (entry.undivided here), addresses_cons,
      entry.addresses_eq here, ih later]

theorem recipients_eq_iff {text : String} :
    recipients text = list ↔ Lists text.toList list ∧ ∀ recipient ∈ list, Tidy recipient := by
  constructor
  · rintro rfl
    refine ⟨?_, tidy_recipients text⟩
    rw [recipients_eq]
    have lists := lists_addresses (List.splitOn_ne_nil ',' text.toList)
    rwa [List.intercalate_splitOn] at lists
  · -- No address holds a comma, so that the text is split between the entries and nowhere else.
    rintro ⟨lists, tidy⟩
    rw [recipients_eq, lists.addresses_eq tidy]

end Parts

section Loading

def announcing (lookup : Lookup) (text : String) : Lookup := fun name =>
  if name = Key.serviceDesk.name then some text else lookup name

variable (lookup : Lookup) (text : String)

theorem given_announcing {key : Key} (other : key ≠ .serviceDesk) :
    given (announcing lookup text) key = given lookup key := by
  have named : key.name ≠ Key.serviceDesk.name := by
    cases key with
    | serviceDesk => exact absurd rfl other
    | _ => decide
  rw [given, announcing, if_neg named, given]

theorem numeral_announcing {key : Key} (other : key ≠ .serviceDesk) (limit : Nat) :
    numeral (announcing lookup text) key limit = numeral lookup key limit := by
  rw [numeral, given_announcing lookup text other, numeral]

theorem positiveLimit_announcing :
    positiveLimit (announcing lookup text) = positiveLimit lookup := by
  rw [positiveLimit, numeral_announcing lookup text (by decide), positiveLimit]

theorem recipients_announcing :
    ((given (announcing lookup text) .serviceDesk).map recipients).getD [] = recipients text := by
  by_cases blank : allBlank text = true
  · have nobody : recipients text = [] := by
      apply recipients_eq_iff.mpr
      exact ⟨.last (.empty (List.all_eq_true.mp blank)), by simp⟩
    simp [given, announcing, Option.filter_some, blank, nobody]
  · simp [given, announcing, Option.filter_some, blank]

theorem load_announcing (temporary : String) :
    load temporary (announcing lookup text) =
      (load temporary lookup).map fun settings =>
        { settings with serviceDesk := recipients text } := by
  have announced := recipients_announcing lookup text
  have texts := @given_announcing lookup text
  have numbers := @numeral_announcing lookup text
  have limit := positiveLimit_announcing lookup text
  -- Every other key is read as before, also where a value is refused.
  change _ = _ <$> _
  simp only [load, ne_eq, reduceCtorEq, not_false_eq_true, texts, numbers, limit, defaults,
    announced, map_bind]
  rfl

end Loading

/-- The recipients are the parts of the text between commas, those apart that hold nothing but white
space. -/
theorem recipient_lists_parse_cleanly (temporary : String) (lookup : Lookup) (text : String) :
    let list := recipients text
    load temporary (announcing lookup text) =
        (load temporary lookup).map (fun settings => { settings with serviceDesk := list }) ∧
      List.Forall₂ (fun part recipient => Padded recipient.toList part)
        ((text.toList.splitOn ',').filter fun part => !part.all isBlank) list ∧
      (∀ recipient ∈ list, Tidy recipient) ∧
      (∀ other : String, recipients other = list ↔ Lists other.toList list) ∧
      ∀ other : String, Lists other.toList list →
        load temporary (announcing lookup other) = load temporary (announcing lookup text) := by
  intro list
  have tidy := tidy_recipients text
  have same : ∀ other : String, recipients other = list ↔ Lists other.toList list := by
    intro other
    rw [recipients_eq_iff]
    exact and_iff_left tidy
  refine ⟨load_announcing lookup text temporary, ?_, tidy, same, ?_⟩
  · have padded := padded_addresses (text.toList.splitOn ',')
    rwa [← recipients_eq] at padded
  · intro other lists
    rw [load_announcing, load_announcing, (same other).mpr lists]

theorem desk_and_lead_parse_cleanly :
    let list := ["desk@x.cz", "lead@x.cz"]
    let other := ",desk@x.cz\u2003,,\u3000lead@x.cz\t"
    recipients "desk@x.cz, , lead@x.cz" = list ∧ Lists other.toList list ∧
      load "/tmp" (announcing (fun _ => none) other) =
        .ok { defaults "/tmp" with serviceDesk := list } := by
  intro list other
  have parsed : recipients "desk@x.cz, , lead@x.cz" = list := by decide +kernel
  obtain ⟨loaded, -, -, same, again⟩ :=
    recipient_lists_parse_cleanly "/tmp" (fun _ => none) "desk@x.cz, , lead@x.cz"
  rw [parsed] at loaded same again
  have lists : Lists other.toList list := (same other).mp (by decide +kernel)
  refine ⟨parsed, lists, ?_⟩
  rw [again other lists, loaded]
  rfl

end Settings

end TicketReports
