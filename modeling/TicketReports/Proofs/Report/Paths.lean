import TicketReports.Proofs.Text.Split
import TicketReports.Report.Place

set_option autoImplicit false

namespace TicketReports.Report

/-- What a path is made of, from the outside in. A step to the same directory counts only at the
start of a relative path. -/
inductive Component where
  | root
  | here
  | above
  | name (text : List Char)
  deriving DecidableEq

def component? : List Char → Option Component
  | [] => none
  | ['.'] => none
  | ['.', '.'] => some .above
  | text => some (.name text)

def start : List (List Char) → List Component
  | [] :: _ :: _ => [.root]
  | ['.'] :: _ => [.here]
  | _ => []

def components (path : String) : List Component :=
  let parts := Text.splitAll '/' path.toList
  start parts ++ parts.filterMap component?

def joined (dir path : String) : String :=
  if path.toList.head? = some '/' then path else joinPath dir path

def Harmless (c : Char) : Prop :=
  'A' ≤ c ∧ c ≤ 'Z' ∨ 'a' ≤ c ∧ c ≤ 'z' ∨ '0' ≤ c ∧ c ≤ '9' ∨ c ∈ ['@', '.', '_', '-', '+']

structure Inner (name : String) : Prop where
  undivided : '/' ∉ name.toList
  some' : name ≠ ""
  not_here : name ≠ "."
  not_above : name ≠ ".."

section Steps

variable {name : String}

theorem Inner.component? (inner : Inner name) :
    Report.component? name.toList = some (.name name.toList) := by
  have some' : name.toList ≠ "".toList := mt String.toList_inj.mp inner.some'
  have not_here : name.toList ≠ ".".toList := mt String.toList_inj.mp inner.not_here
  have not_above : name.toList ≠ "..".toList := mt String.toList_inj.mp inner.not_above
  generalize name.toList = text at *
  unfold Report.component?
  split
  next => exact absurd rfl some'
  next => exact absurd rfl not_here
  next => exact absurd rfl not_above
  next => rfl

theorem parts_joinPath (dir : String) (inner : Inner name) :
    ∃ front, (joinPath dir name).toList.splitOn '/' = front ++ [name.toList] ∧
      (dir.toList.splitOn '/' = front ++ [[]] ∨
        dir.toList.splitOn '/' = front ∧ front ≠ [[]]) := by
  -- A path that is empty or ends with a separator has an empty last part, which the name replaces.
  have single := List.splitOn_eq_singleton inner.undivided
  unfold joinPath
  by_cases empty : dir = ""
  · subst empty
    exact ⟨[], by simpa using single, .inl rfl⟩
  · by_cases closed : dir.toList.getLast? = some '/'
    · obtain ⟨outer, ended⟩ := List.getLast?_eq_some_iff.mp closed
      refine ⟨outer.splitOn '/', ?_, .inl ?_⟩
      · simp [ended, List.splitOn_append_cons_self, single]
      · rw [ended, List.splitOn_append_cons_self, List.splitOn_nil]
    · refine ⟨dir.toList.splitOn '/', ?_, .inr ⟨rfl, fun nothing => empty ?_⟩⟩
      · simp [empty, closed, List.splitOn_append_cons_self, single]
      · -- Only the empty path has but an empty part.
        have whole : ['/'].intercalate (dir.toList.splitOn '/') = dir.toList :=
          List.intercalate_splitOn '/'
        rw [nothing] at whole
        simpa using whole.symm

theorem start_single (part : List Char) :
    start [part] = if part = ['.'] then [.here] else [] := by
  unfold start
  split <;> simp_all

theorem start_cons (part next : List Char) (later : List (List Char)) :
    start (part :: next :: later) =
      if part = [] then [.root] else if part = ['.'] then [.here] else [] := by
  unfold start
  split <;> simp_all

theorem start_append {front dir : List (List Char)} (inner : Inner name)
    (ends : dir = front ++ [[]] ∨ dir = front ∧ front ≠ [[]]) :
    start (front ++ [name.toList]) = start dir := by
  have not_here : name.toList ≠ ".".toList := mt String.toList_inj.mp inner.not_here
  change name.toList ≠ ['.'] at not_here
  rcases ends with rfl | ⟨rfl, more⟩
  · rcases front with _ | ⟨part, _ | ⟨next, later⟩⟩
    · simp [start_single, not_here]
    · simp [start_cons]
    · simp [start_cons]
  · rcases dir with _ | ⟨part, _ | ⟨next, later⟩⟩
    · simp [not_here, start]
    · have some' : part ≠ [] := fun none' => more (by rw [none'])
      simp [start_single, start_cons, some']
    · simp [start_cons]

theorem components_joinPath (dir : String) (inner : Inner name) :
    components (joinPath dir name) = components dir ++ [.name name.toList] := by
  obtain ⟨front, joined, ends⟩ := parts_joinPath dir inner
  unfold components
  rw [Text.splitAll_eq_splitOn, Text.splitAll_eq_splitOn, joined]
  dsimp only
  rw [start_append inner ends, List.filterMap_append]
  have last : [name.toList].filterMap component? = [.name name.toList] := by
    simp [inner.component?]
  have none' : List.filterMap component? [[]] = [] := rfl
  rcases ends with same | ⟨same, -⟩
  · rw [same, List.filterMap_append, none', last, List.append_nil, List.append_assoc]
  · rw [same, last, List.append_assoc]

theorem names_joinPath (dir : String) (inner : Inner name) :
    names (joinPath dir name) = names dir ++ [name] := by
  obtain ⟨front, joined, ends⟩ := parts_joinPath dir inner
  unfold names
  rw [Text.splitAll_eq_splitOn, Text.splitAll_eq_splitOn, joined]
  rcases ends with same | ⟨same, -⟩
  · simp [same, inner.some']
  · simp [same, inner.some']

theorem walk_append (place : List String) (entered : List (List String))
    (first later : List String) :
    walk place entered (first ++ later) =
      walk (walk place entered first).1 (walk place entered first).2 later := by
  fun_induction walk place entered first with
  | case1 => rfl
  | case2 place entered rest ih => simpa [walk] using ih
  | case3 place entered rest ih => simpa [walk] using ih
  | case4 place entered name rest here above ih => simpa [walk] using ih

theorem destination_joinPath (dir : String) (inner : Inner name) :
    destination (joinPath dir name) = name :: destination dir := by
  rw [destination, names_joinPath dir inner, walk_append, destination]
  rw [walk]
  · rfl
  · exact inner.not_here
  · exact inner.not_above

end Steps

section Names

theorem isAlpha_iff (c : Char) :
    c.isAlpha = true ↔ 'A' ≤ c ∧ c ≤ 'Z' ∨ 'a' ≤ c ∧ c ≤ 'z' := by
  have tested : c.isAlpha =
      (decide ('A' ≤ c ∧ c ≤ 'Z') || decide ('a' ≤ c) && decide (c ≤ 'z')) := rfl
  simp [tested]

theorem isDigit_iff (c : Char) : c.isDigit = true ↔ '0' ≤ c ∧ c ≤ '9' := by
  have tested : c.isDigit = (decide ('0' ≤ c) && decide (c ≤ '9')) := rfl
  simp [tested]

theorem isPlain_iff (c : Char) : isPlain c = true ↔ Harmless c := by
  simp only [isPlain, Char.isAlphanum, Bool.or_eq_true, isAlpha_iff, isDigit_iff, beq_iff_eq,
    Harmless, List.mem_cons, List.not_mem_nil, or_false, or_assoc]

theorem harmless_sanitized (text : List Char) : ∀ c ∈ sanitized text, Harmless c := by
  intro c member
  obtain ⟨given, -, rfl⟩ := List.mem_map.mp member
  split
  next plain => exact (isPlain_iff given).mp plain
  next => exact (isPlain_iff '_').mp rfl

theorem sanitized_eq_self_iff {text : List Char} :
    sanitized text = text ↔ ∀ c ∈ text, Harmless c := by
  constructor
  · intro same
    rw [← same]
    exact harmless_sanitized text
  · intro harmless
    refine (List.map_congr_left fun c member => ?_).trans (List.map_id text)
    exact if_pos ((isPlain_iff c).mpr (harmless c member))

theorem engineerFile_harmless (email : String) :
    ∀ c ∈ (engineerFile email).toList, Harmless c := by
  have plain : ∀ c ∈ extension, Harmless c := by
    have all : extension.all isPlain = true := by decide
    intro c member
    exact (isPlain_iff c).mp (List.all_eq_true.mp all c member)
  rw [engineerFile, String.toList_ofList]
  exact List.forall_mem_append.mpr ⟨harmless_sanitized email.toList, plain⟩

theorem engineerFile_length (email : String) :
    (engineerFile email).length = email.length + 5 := by
  rw [engineerFile, String.length_ofList, List.length_append, sanitized, List.length_map,
    String.length_toList]
  rfl

theorem engineerFile_eq_append (email : String) :
    engineerFile email = String.ofList (sanitized email.toList) ++ ".xlsx" := by
  rw [engineerFile, String.ofList_append]
  rfl

theorem engineerFile_inner (email : String) : Inner (engineerFile email) := by
  have length := engineerFile_length email
  have other : ∀ name : String, name.length < 5 → engineerFile email ≠ name := by
    rintro name short rfl
    omega
  refine ⟨fun slash => ?_, other "" (by decide), other "." (by decide), other ".." (by decide)⟩
  have harmless := engineerFile_harmless email '/' slash
  exact absurd ((isPlain_iff '/').mpr harmless) (by decide)

theorem joined_engineerFile (dir email : String) :
    joined dir (engineerFile email) = joinPath dir (engineerFile email) := by
  refine if_neg fun slash => (engineerFile_inner email).undivided ?_
  exact List.mem_of_head? slash

end Names

/-- The workbook of an address stands in the report directory itself, under a name of harmless
characters. -/
theorem workbooks_stay_in_directory (dir email : String) :
    let name := engineerFile email
    joined dir name = joinPath dir name ∧
      components (joinPath dir name) = components dir ++ [.name name.toList] ∧
      destination (joinPath dir name) = name :: destination dir ∧
      (∀ c ∈ name.toList, Harmless c) ∧
      name.length = email.length + 5 ∧ (∃ stem, name = stem ++ ".xlsx") ∧
      name ≠ "." ∧ name ≠ ".." ∧
      sanitized name.toList = name.toList ∧
      sanitized (sanitized email.toList) = sanitized email.toList ∧
      (name = email ++ ".xlsx" ↔ ∀ c ∈ email.toList, Harmless c) := by
  have inner := engineerFile_inner email
  have harmless := engineerFile_harmless email
  refine ⟨joined_engineerFile dir email, components_joinPath dir inner,
    destination_joinPath dir inner, harmless, engineerFile_length email,
    ⟨_, engineerFile_eq_append email⟩, inner.not_here, inner.not_above,
    sanitized_eq_self_iff.mpr harmless,
    sanitized_eq_self_iff.mpr (harmless_sanitized email.toList), ?_⟩
  rw [← sanitized_eq_self_iff, engineerFile_eq_append, String.append_left_inj, ← String.toList_inj,
    String.toList_ofList]

example :
    joinPath "/srv/reports" (engineerFile "../../etc/passwd") =
      "/srv/reports/.._.._etc_passwd.xlsx" := by
  decide

end TicketReports.Report
