import Mathlib.Data.List.Nodup
import TicketReports.Proofs.Text.Split
import TicketReports.Sql.Reader

set_option autoImplicit false

namespace TicketReports.Sql

theorem Column.mem_all (column : Column) : column ∈ all := by
  cases column with
  | started phase | finished phase => cases phase <;> decide
  | _ => decide

theorem Column.name_injective : Function.Injective name := fun a b same =>
  List.inj_on_of_nodup_map (show (all.map name).Nodup by decide) a.mem_all b.mem_all same

namespace Command

def IsWord (word : String) : Prop :=
  word.toList ≠ [] ∧ ∀ c ∈ word.toList, c ≠ ' ' ∧ isMark c = false

def Stops (text : List Char) : Prop := ∀ c ∈ text.head?, c = ' ' ∨ isMark c = true

/-- The text consists of these words, if none goes on behind it. -/
def Spells (text : List Char) (words : List String) : Prop :=
  ∀ rest, Stops rest → wordsFrom [] (text ++ rest) = words ++ wordsFrom [] rest

/-- The text consists of these words, whatever follows it. -/
def Ends (text : List Char) (words : List String) : Prop :=
  ∀ rest, wordsFrom [] (text ++ rest) = words ++ wordsFrom [] rest

section Words

variable {text later : List Char} {words others : List String}

theorem Ends.spells (ends : Ends text words) : Spells text words := fun rest _ => ends rest

theorem Ends.append (first : Ends text words) (second : Spells later others) :
    Spells (text ++ later) (words ++ others) := by
  intro rest stops
  rw [List.append_assoc, first, second rest stops, List.append_assoc]

theorem Stops.append (first : Stops text) (second : Stops later) : Stops (text ++ later) := by
  cases text with
  | nil => exact second
  | cons c rest => exact first

theorem Spells.append (first : Spells text words) (second : Spells later others)
    (stops : Stops later) : Spells (text ++ later) (words ++ others) := by
  intro rest short
  rw [List.append_assoc, first _ (stops.append short), second rest short, List.append_assoc]

theorem Spells.append_ends (first : Spells text words) (second : Ends later others)
    (stops : ∀ rest, Stops (later ++ rest)) : Ends (text ++ later) (words ++ others) := by
  intro rest
  rw [List.append_assoc, first _ (stops rest), second, List.append_assoc]

theorem stops_nil : Stops [] := nofun

theorem stops_cons {c : Char} (stop : c = ' ' ∨ isMark c = true) (rest : List Char) :
    Stops (c :: rest) := by
  simpa [Stops] using stop

theorem Spells.whole (spells : Spells text words) : wordsFrom [] text = words := by
  have whole := spells [] stops_nil
  rwa [List.append_nil, wordsFrom, wordSoFar, List.isEmpty_nil, if_pos rfl, List.append_nil]
    at whole

theorem wordsFrom_stop {letters : List Char} (stops : Stops text) :
    wordsFrom letters text = wordSoFar letters ++ wordsFrom [] text := by
  cases text with
  | nil => simp
  | cons c rest =>
    rcases stops c rfl with rfl | mark
    · simp
    · have dark : c ≠ ' ' := by
        rintro rfl
        exact absurd mark (by decide)
      simp [dark, mark]

theorem wordsFrom_append (stops : Stops later) (letters : List Char) :
    wordsFrom letters (text ++ later) = wordsFrom letters text ++ wordsFrom [] later := by
  induction text generalizing letters with
  | nil => exact wordsFrom_stop stops
  | cons c rest ih =>
    simp only [List.cons_append, wordsFrom, ih]
    split
    next => rw [List.append_assoc]
    next =>
      split
      next => rw [List.append_assoc, List.cons_append]
      next => rfl

theorem spells_of_read (read : wordsFrom [] text = words) : Spells text words := by
  intro rest stops
  rw [wordsFrom_append stops, read]

def isStop (c : Char) : Bool := c == ' ' || isMark c

theorem ends_of_read
    (closed : text.getLast?.any isStop = true ∧ wordsFrom [] text = words) : Ends text words := by
  obtain ⟨last, read⟩ := closed
  intro rest
  rcases List.eq_nil_or_concat text with rfl | ⟨front, c, rfl⟩
  · simp at last
  · have stop : c = ' ' ∨ isMark c = true := by simpa [isStop] using last
    rw [List.concat_eq_append, wordsFrom_append (stops_cons stop _)] at read
    rw [List.concat_eq_append, List.append_assoc, List.singleton_append,
      wordsFrom_append (stops_cons stop _), ← read, List.append_assoc]
    rcases stop with rfl | mark
    · rfl
    · have dark : c ≠ ' ' := by
        rintro rfl
        exact absurd mark (by decide)
      simp [dark, mark]

theorem wordsFrom_letters {word : List Char} (plain : ∀ c ∈ word, c ≠ ' ' ∧ isMark c = false)
    (letters : List Char) : wordsFrom letters word = wordSoFar (word.reverse ++ letters) := by
  induction word generalizing letters with
  | nil => rfl
  | cons c rest ih =>
    obtain ⟨⟨dark, letter⟩, plain⟩ := List.forall_mem_cons.mp plain
    rw [wordsFrom, if_neg dark, if_neg (by simp [letter]), ih plain]
    simp

theorem IsWord.spells {word : String} (is : IsWord word) : Spells word.toList [word] := by
  refine spells_of_read ?_
  rw [wordsFrom_letters is.2, List.append_nil, wordSoFar]
  simp [is.1, String.ofList_toList]

end Words

section Joined

variable {α : Type} {text : α → List Char} {words : α → List String}

theorem spells_joined {items : List α} (some : items ≠ [])
    (each : ∀ item ∈ items, Spells (text item) (words item)) :
    Spells ([',', ' '].intercalate (items.map text)) ([","].intercalate (items.map words)) := by
  induction items with
  | nil => exact absurd rfl some
  | cons item rest ih =>
    obtain ⟨first, others⟩ := List.forall_mem_cons.mp each
    cases rest with
    | nil => simpa using first
    | cons next later =>
      have comma : Ends [',', ' '] [","] := fun _ => rfl
      have stops (rest : List Char) : Stops ([',', ' '] ++ rest) := stops_cons (.inr rfl) _
      simp only [List.map_cons, List.intercalate_cons_cons] at ih ⊢
      exact (first.append_ends comma stops).append (ih nofun others)

theorem parts_joined {items : List α} (some : items ≠ [])
    (apart : ∀ item ∈ items, "," ∉ words item) :
    parts ([","].intercalate (items.map words)) = items.map words := by
  rw [parts, Text.splitWhere_eq_splitOnP]
  refine List.splitOn_intercalate "," ?_ (by simpa using some)
  simpa using apart

theorem not_mem_joined {last : String} (other : last ≠ ",") {items : List α}
    (apart : ∀ item ∈ items, last ∉ words item) :
    last ∉ [","].intercalate (items.map words) := by
  induction items with
  | nil => exact List.not_mem_nil
  | cons item rest ih =>
    obtain ⟨first, others⟩ := List.forall_mem_cons.mp apart
    cases rest with
    | nil => simpa using first
    | cons next later =>
      simp only [List.map_cons, List.intercalate_cons_cons, List.mem_append, not_or] at ih ⊢
      exact ⟨⟨first, by simpa using other⟩, ih others⟩

theorem upTo_append {last : String} {before after : List String} (apart : last ∉ before) :
    upTo last (before ++ last :: after) = Option.some (before, after) := by
  have others : ∀ word ∈ before, (word != last) = true := by
    intro word member
    exact bne_iff_ne.mpr fun same => apart (same ▸ member)
  rw [upTo, List.dropWhile_append_of_pos others, List.takeWhile_append_of_pos others]
  simp

theorem mapM_read {β : Type} {read : List String → Option β} {make : α → β} {items : List α}
    (each : ∀ item ∈ items, read (words item) = Option.some (make item)) :
    (items.map words).mapM read = Option.some (items.map make) := by
  induction items with
  | nil => rfl
  | cons item rest ih =>
    obtain ⟨first, others⟩ := List.forall_mem_cons.mp each
    rw [List.map_cons, List.mapM_cons, first, ih others]
    rfl

theorem joined_toList (parts : List String) :
    (joined parts).toList = [',', ' '].intercalate (parts.map String.toList) :=
  String.toList_intercalate

end Joined

theorem IsWord.ne {word : String} (is : IsWord word) : word ≠ "," ∧ word ≠ ")" := by
  constructor
  · rintro rfl
    exact absurd (is.2 ',' (by simp)).2 (by decide)
  · rintro rfl
    exact absurd (is.2 ')' (by simp)).2 (by decide)

section Singles

variable {α : Type} {word : α → String} (each : ∀ item, IsWord (word item)) {items : List α}
include each

theorem singles_spell (some : items ≠ []) :
    Spells (joined (items.map word)).toList
      ([","].intercalate (items.map fun item => [word item])) := by
  rw [joined_toList, List.map_map]
  exact spells_joined some fun item _ => (each item).spells

theorem singles_plain (items : List α) :
    ")" ∉ [","].intercalate (items.map fun item => [word item]) :=
  not_mem_joined (by decide) fun item _ => by simpa using (each item).ne.2.symm

theorem singles_read {β : Type} {read : String → Option β} {make : α → β}
    (inverse : ∀ item, read (word item) = Option.some (make item)) (some : items ≠ []) :
    (parts ([","].intercalate (items.map fun item => [word item]))).mapM (only? read) =
      Option.some (items.map make) := by
  have apart (item : α) : "," ∉ [word item] := by simpa using (each item).ne.1.symm
  rw [parts_joined some fun item _ => apart item, mapM_read fun item _ => inverse item]

end Singles

theorem unmarked {holds : Char → Prop} {c : Char} (held : holds c) (blank : ¬holds ' ')
    (marks : ¬holds ',' ∧ ¬holds '(' ∧ ¬holds ')' ∧ ¬holds '=') : c ≠ ' ' ∧ isMark c = false := by
  obtain ⟨comma, opening, closing, equals⟩ := marks
  constructor
  · rintro rfl
    exact blank held
  · refine Bool.eq_false_iff.mpr fun mark => ?_
    simp only [isMark, Bool.or_eq_true, beq_iff_eq] at mark
    rcases mark with ((rfl | rfl) | rfl) | rfl
    · exact comma held
    · exact opening held
    · exact closing held
    · exact equals held

def IsKey (name : String) : Prop := name ≠ "" ∧ ∀ c ∈ name.toList, 'a' ≤ c ∨ c = '_'

theorem IsKey.append {name suffix : String} (key : IsKey name)
    (rest : ∀ c ∈ suffix.toList, 'a' ≤ c ∨ c = '_') : IsKey (name ++ suffix) := by
  refine ⟨fun none => key.1 (String.append_eq_empty_iff.mp none).1, ?_⟩
  rw [String.toList_append]
  exact List.forall_mem_append.mpr ⟨key.2, rest⟩

theorem IsKey.isWord {name : String} (key : IsKey name) : IsWord name := by
  refine ⟨by simpa using key.1, fun c letter => ?_⟩
  rcases key.2 c letter with lower | rfl
  · exact @unmarked (fun c => 'a' ≤ c) c lower (by decide) (by decide)
  · exact ⟨by decide, by decide⟩

theorem column_isKey (column : Column) : IsKey column.name := by
  have phase_isKey (phase : Phase) : IsKey phase.name := by
    cases phase <;> simp [IsKey, Phase.name]
  cases column with
  | started phase => exact (phase_isKey phase).append (by simp)
  | finished phase => exact (phase_isKey phase).append (by simp)
  | _ => simp [IsKey, Column.name]

theorem column_isWord (column : Column) : IsWord column.name := (column_isKey column).isWord

theorem column?_name (column : Column) : column? column.name = some column := by
  cases found : column? column.name with
  | none => simpa using List.find?_eq_none.mp found column column.mem_all
  | some other =>
    have same : other.name = column.name := by simpa using List.find?_some found
    rw [Column.name_injective same]

theorem placeholder_toList (n : Nat) : (placeholder n).toList = '$' :: Nat.toDigits 10 n := by
  simp [placeholder]

theorem placeholder_isWord (n : Nat) : IsWord (placeholder n) := by
  rw [IsWord, placeholder_toList]
  refine ⟨nofun, List.forall_mem_cons.mpr ⟨by decide, fun c digit => ?_⟩⟩
  have decimal := Nat.isDigit_of_mem_toDigits (by decide) (by decide) digit
  exact @unmarked (fun c => c.isDigit = true) c decimal (by decide) (by decide)

theorem number?_placeholder (n : Nat) : number? (placeholder n) = some n := by
  have decimal : (Nat.toDigits 10 n).all Char.isDigit = true :=
    List.all_eq_true.mpr fun c digit => Nat.isDigit_of_mem_toDigits (by decide) (by decide) digit
  simp only [number?, placeholder_toList]
  rw [if_pos decimal, Nat.ofDigitChars_toDigits (by decide) (by decide)]

variable {columns : List Column}

theorem names_read (some : columns ≠ []) :
    (parts ([","].intercalate (columns.map fun column => [column.name]))).mapM (only? column?) =
      Option.some columns := by
  rw [singles_read column_isWord column?_name some, List.map_id']

theorem read?_insert (some : columns ≠ []) :
    read? (Statement.insert columns).text = Option.some (.insert (columns.zipIdx 1)) := by
  let numbers := List.range columns.length
  have numbered : numbers ≠ [] := by simpa [numbers] using some
  have isWord (n : Nat) : IsWord (placeholder (n + 1)) := placeholder_isWord (n + 1)
  have opening : Ends "INSERT INTO jobs ( ".toList ["INSERT", "INTO", "jobs", "("] :=
    ends_of_read (by simp [isStop, isMark])
  have between : Ends " ) VALUES (".toList [")", "VALUES", "("] :=
    ends_of_read (by simp [isStop, isMark])
  have closing : Ends ")".toList [")"] := ends_of_read (by simp [isStop, isMark])
  have text : (Statement.insert columns).text = "INSERT INTO jobs ( " ++
      joined (columns.map Column.name) ++ " ) VALUES (" ++
        joined (numbers.map fun n => placeholder (n + 1)) ++ ")" := rfl
  have values := (singles_spell isWord numbered).append closing.spells (stops_cons (.inr rfl) _)
  have spelled := opening.append ((singles_spell column_isWord some).append
    (between.append values) (stops_cons (.inl rfl) _))
  have named := singles_plain column_isWord columns
  have valued := singles_plain isWord numbers
  have counted := singles_read isWord (fun n => number?_placeholder (n + 1)) numbered
  have placed : columns.zip (numbers.map (· + 1)) = columns.zipIdx 1 := by
    simp [List.zipIdx_eq_zip_range', numbers, List.range'_eq_map_range, Nat.add_comm]
  have paired : columns.length = numbers.length := by simp [numbers]
  rw [read?, text]
  simp only [String.toList_append, List.append_assoc]
  rw [spelled.whole]
  simp [ofWords?, after?, insert?, upTo_append named, upTo_append valued, names_read some, counted,
    placed, paired]

theorem column_ne (column : Column) : column.name ≠ "WHERE" ∧ column.name ≠ "FROM" := by
  have key := (column_isKey column).2
  constructor
  · intro same
    rw [same] at key
    exact absurd (key 'W' (by simp)) (by decide)
  · intro same
    rw [same] at key
    exact absurd (key 'F' (by simp)) (by decide)

theorem placeholder_ne (n : Nat) : placeholder n ≠ "WHERE" := by
  intro same
  have letters := congrArg String.toList same
  rw [placeholder_toList] at letters
  cases letters

theorem read?_update (some : columns ≠ []) :
    read? (Statement.update columns).text =
      Option.some (.update (columns.zipIdx 2) (.id, 1)) := by
  let item (place : Column × Nat) : String :=
    place.1.name ++ " = " ++ placeholder (place.2 + 2)
  let words (place : Column × Nat) : List String :=
    [place.1.name, "=", placeholder (place.2 + 2)]
  have placed : columns.zipIdx ≠ [] := by simpa using some
  have settings : Spells (joined (columns.zipIdx.map item)).toList
      ([","].intercalate (columns.zipIdx.map words)) := by
    rw [joined_toList, List.map_map]
    refine spells_joined placed fun place _ => ?_
    have equals : Ends " = ".toList ["="] := ends_of_read (by simp [isStop, isMark])
    have spelled := (column_isWord place.1).spells.append
      (equals.append (placeholder_isWord (place.2 + 2)).spells) (stops_cons (.inl rfl) _)
    simp only [Function.comp_apply, item, String.toList_append, List.append_assoc]
    exact spelled
  have opening : Ends "UPDATE jobs SET ".toList ["UPDATE", "jobs", "SET"] :=
    ends_of_read (by simp [isStop, isMark])
  have closing : Spells " WHERE uuid = $1".toList ["WHERE", "uuid", "=", "$1"] :=
    spells_of_read (by simp [isMark])
  have text : (Statement.update columns).text = "UPDATE jobs SET " ++
      joined (columns.zipIdx.map item) ++ " WHERE uuid = $1" := rfl
  have spelled := opening.append (settings.append closing (stops_cons (.inl rfl) _))
  have apart : "WHERE" ∉ [","].intercalate (columns.zipIdx.map words) :=
    not_mem_joined (by decide) fun place _ => by
      simp [words, (column_ne place.1).1.symm, (placeholder_ne (place.2 + 2)).symm]
  have unlisted (place : Column × Nat) : "," ∉ words place := by
    simp [words, (column_isWord place.1).ne.1.symm, (placeholder_isWord (place.2 + 2)).ne.1.symm]
  have placesRead : (parts ([","].intercalate (columns.zipIdx.map words))).mapM place? =
      Option.some (columns.zipIdx 2) := by
    have shifted : columns.zipIdx 2 = columns.zipIdx.map fun place => (place.1, place.2 + 2) := by
      rw [List.zipIdx_eq_map_add]
      simp [Nat.add_comm]
    rw [parts_joined placed fun place _ => unlisted place, shifted]
    refine mapM_read fun place _ => ?_
    simp [words, place?, column?_name, number?_placeholder]
  have key : place? ["uuid", "=", "$1"] = Option.some (.id, 1) := by decide +kernel
  rw [read?, text]
  simp only [String.toList_append, List.append_assoc]
  rw [spelled.whole]
  simp [ofWords?, after?, update?, upTo_append apart, placesRead, key]

theorem filterFront_append (filter : Filter) {rest : List String}
    (other : ∀ word ∈ rest.head?, word ≠ "WHERE") :
    filterFront (wordsFrom [] filter.text.toList ++ rest) = (filter, rest) := by
  cases filter with
  | everything =>
    cases rest with
    | nil => rfl
    | cons word rest => simp_all [Filter.text, filterFront, after?]
  | byId | unfinished => simp [Filter.text, filterFront, after?, isMark]

theorem orderFront_append (order : Order) {rest : List String}
    (other : ∀ word ∈ rest.head?, word ≠ "ORDER") :
    orderFront (wordsFrom [] order.text.toList ++ rest) = (order, rest) := by
  cases order with
  | unordered =>
    cases rest with
    | nil => rfl
    | cons word rest => simp_all [Order.text, orderFront, after?]
  | newestFirst | oldestFirst =>
    simp [Order.text, orderFront, after?, isMark]

theorem window?_words (window : Window) :
    window? (wordsFrom [] window.text.toList) = Option.some window := by
  cases window <;> simp [Window.text, window?, isMark]

theorem choice?_append (filter : Filter) (order : Order) (window : Window) :
    choice? (wordsFrom [] filter.text.toList ++ (wordsFrom [] order.text.toList ++
      wordsFrom [] window.text.toList)) = Option.some (filter, order, window) := by
  -- A clause that is left out is told by the first word of the next one.
  have last : ∀ word ∈ (wordsFrom [] window.text.toList).head?, word = "LIMIT" := by
    cases window <;> simp [Window.text, isMark]
  have middle : ∀ word ∈ (wordsFrom [] order.text.toList ++
      wordsFrom [] window.text.toList).head?, word = "ORDER" ∨ word = "LIMIT" := by
    cases order with
    | unordered => exact fun word member => .inr (last word member)
    | newestFirst | oldestFirst => simp [Order.text, isMark]
  have conditions := filterFront_append filter fun word member => by
    rcases middle word member with rfl | rfl <;> decide
  have sorting := orderFront_append order fun word member => by
    rw [last word member]
    decide
  rw [choice?, conditions]
  dsimp only
  rw [sorting]
  dsimp only
  rw [window?_words]
  rfl

theorem read?_select (filter : Filter) (order : Order) (window : Window) :
    read? (Statement.select filter order window).text =
      Option.some (.select Column.all filter order window) := by
  have columns : Column.all ≠ [] := by decide
  have opening : Ends "SELECT ".toList ["SELECT"] :=
    ends_of_read (by simp [isStop, isMark])
  have table : Spells " FROM jobs".toList ["FROM", "jobs"] :=
    spells_of_read (by simp [isMark])
  have filterStops : Stops filter.text.toList := by cases filter <;> simp [Filter.text, Stops]
  have orderStops : Stops order.text.toList := by cases order <;> simp [Order.text, Stops]
  have windowStops : Stops window.text.toList := by cases window <;> simp [Window.text, Stops]
  have choice := (@spells_of_read filter.text.toList _ rfl).append
    ((@spells_of_read order.text.toList _ rfl).append (@spells_of_read window.text.toList _ rfl)
      windowStops) (orderStops.append windowStops)
  have text : (Statement.select filter order window).text =
      "SELECT " ++ joined (Column.all.map Column.name) ++ " FROM jobs" ++ filter.text ++
        order.text ++ window.text := rfl
  have spelled := opening.append ((singles_spell column_isWord columns).append (table.append choice
    (filterStops.append (orderStops.append windowStops))) (stops_cons (.inl rfl) _))
  have apart : "FROM" ∉ [","].intercalate (Column.all.map fun column => [column.name]) :=
    not_mem_joined (by decide) fun column _ => by simpa using (column_ne column).2.symm
  rw [read?, text]
  simp only [String.toList_append, List.append_assoc]
  rw [spelled.whole]
  simp [ofWords?, after?, select?, upTo_append apart, names_read columns, choice?_append]

theorem type_plain (column : Column) :
    "," ∉ wordsFrom [] column.type.toList ∧ ")" ∉ wordsFrom [] column.type.toList := by
  cases column <;> simp [Column.type, isMark]

theorem read?_createTable : read? Statement.createTable.text = Option.some
    (.create (Column.all.map fun column => (column, wordsFrom [] column.type.toList))) := by
  let item (column : Column) : String := column.name ++ " " ++ column.type
  let words (column : Column) : List String := column.name :: wordsFrom [] column.type.toList
  have columns : Column.all ≠ [] := by decide
  have declarations : Spells (joined (Column.all.map item)).toList
      ([","].intercalate (Column.all.map words)) := by
    rw [joined_toList, List.map_map]
    refine spells_joined columns fun column _ => ?_
    have blank : Ends " ".toList [] := ends_of_read (by simp [isStop, isMark])
    have type := @spells_of_read column.type.toList _ rfl
    have spelled := (column_isWord column).spells.append (blank.append type)
      (stops_cons (.inl rfl) _)
    simp only [Function.comp_apply, item, String.toList_append, List.append_assoc]
    exact spelled
  have opening : Ends "CREATE TABLE IF NOT EXISTS jobs ( ".toList
      ["CREATE", "TABLE", "IF", "NOT", "EXISTS", "jobs", "("] :=
    ends_of_read (by simp [isStop, isMark])
  have closing : Spells " )".toList [")"] := spells_of_read (by simp [isMark])
  have text : Statement.createTable.text = "CREATE TABLE IF NOT EXISTS jobs ( " ++
      joined (Column.all.map item) ++ " )" := rfl
  have spelled := opening.append (declarations.append closing (stops_cons (.inl rfl) _))
  have apart : ")" ∉ [","].intercalate (Column.all.map words) :=
    not_mem_joined (by decide) fun column _ =>
      List.not_mem_cons_of_ne_of_not_mem (column_isWord column).ne.2.symm (type_plain column).2
  have unlisted (column : Column) : "," ∉ words column :=
    List.not_mem_cons_of_ne_of_not_mem (column_isWord column).ne.1.symm (type_plain column).1
  have read : (parts ([","].intercalate (Column.all.map words))).mapM declaration? = Option.some
      (Column.all.map fun column => (column, wordsFrom [] column.type.toList)) := by
    rw [parts_joined columns fun column _ => unlisted column]
    refine mapM_read fun column _ => ?_
    rw [declaration?, column?_name, Option.map_some]
  rw [read?, text]
  simp only [String.toList_append, List.append_assoc]
  rw [spelled.whole]
  simp [ofWords?, after?, create?, upTo_append apart, read]

end Command

end TicketReports.Sql
