import TicketReports.Mail.Html
import TicketReports.Mail.HtmlReader

set_option autoImplicit false

namespace TicketReports.Html

def spelled (text : String) : List Piece := text.toList.map .char

def wrapped (tag : String) (content : List Piece) : List Piece :=
  tagged tag :: (content ++ [tagged ("/" ++ tag)])

def cellPieces (tag cell : String) : List Piece := wrapped tag (spelled cell)

def rowPieces (tag : String) (cells : List String) : List Piece :=
  wrapped "tr" (cells.flatMap (cellPieces tag))

def Shown.pieces (shown : Shown) : List Piece :=
  cellPieces "b" shown.caption ++ ["br", "br", "table border=\"1\""].map tagged ++
    rowPieces "th" shown.header ++ shown.rows.flatMap (rowPieces "td") ++ [tagged "/table"]

def Splits (text : List Char) (pieces : List Piece) : Prop :=
  ∀ rest, piecesFrom none 0 (text ++ rest) = pieces ++ piecesFrom none 0 rest

section Splitting

variable {first later : List Char} {before after : List Piece}

theorem Splits.append (head : Splits first before) (tail : Splits later after) :
    Splits (first ++ later) (before ++ after) := by
  intro rest
  rw [List.append_assoc, head, tail, List.append_assoc]

theorem Splits.flatMap {α : Type} {text : α → List Char} {pieces : α → List Piece}
    (each : ∀ item, Splits (text item) (pieces item)) (items : List α) :
    Splits (items.flatMap text) (items.flatMap pieces) := by
  induction items with
  | nil => exact fun rest => rfl
  | cons item items ih =>
    simp only [List.flatMap_cons]
    exact (each item).append ih

theorem piecesFrom_skip (skipped rest : List Char) :
    piecesFrom none skipped.length (skipped ++ rest) = piecesFrom none 0 rest := by
  induction skipped with
  | nil => rfl
  | cons c skipped ih => simpa [piecesFrom] using ih

theorem reference?_append {entry : List Char × Char} (listed : entry ∈ references)
    (rest : List Char) : reference? (entry.1 ++ rest) = some (entry.2, rest) := by
  simp only [references, List.mem_cons, List.not_mem_nil, or_false] at listed
  rcases listed with rfl | rfl | rfl | rfl <;> simp [reference?, references]

theorem reference?_plain {c : Char} (plain : c ≠ '&') (rest : List Char) :
    reference? (c :: rest) = none := by
  simp [reference?, references, plain.symm]

theorem splits_reference (entry : List Char × Char) (listed : entry ∈ references) :
    Splits entry.1 [.char entry.2] := by
  intro rest
  obtain ⟨tail, starts⟩ : ∃ tail, entry.1 = '&' :: tail := by
    simp only [references, List.mem_cons, List.not_mem_nil, or_false] at listed
    rcases listed with rfl | rfl | rfl | rfl <;> exact ⟨_, rfl⟩
  have found := reference?_append listed rest
  rw [starts, List.cons_append] at found ⊢
  -- What is left of the reference after its first character is skipped.
  have left : (tail ++ rest).length - rest.length = tail.length := by simp
  rw [piecesFrom, if_neg (by decide), found]
  dsimp only
  rw [left, piecesFrom_skip]
  rfl

theorem splits_escapeChar (c : Char) : Splits (escapeChar c) [.char c] := by
  unfold escapeChar
  split
  next amp => exact amp ▸ splits_reference ("&amp;".toList, '&') (by decide)
  split
  next less => exact less ▸ splits_reference ("&lt;".toList, '<') (by decide)
  split
  next greater => exact greater ▸ splits_reference ("&gt;".toList, '>') (by decide)
  split
  next quote => exact quote ▸ splits_reference ("&quot;".toList, '"') (by decide)
  next amp less greater quote =>
    intro rest
    simp [piecesFrom, less, reference?_plain amp]

theorem splits_escape (text : String) : Splits (escape text) (spelled text) := by
  rw [spelled, List.map_eq_flatMap]
  exact Splits.flatMap splits_escapeChar text.toList

theorem piecesFrom_inside {name : List Char} (plain : '>' ∉ name) (content rest : List Char) :
    piecesFrom (some content) 0 (name ++ '>' :: rest) =
      .tag (content.reverse ++ name) :: piecesFrom none 0 rest := by
  induction name generalizing content with
  | nil => simp [piecesFrom]
  | cons c name ih =>
    simp only [List.mem_cons, not_or] at plain
    simp [piecesFrom, Ne.symm plain.1, ih plain.2]

theorem splits_tag (name : String) (plain : '>' ∉ name.toList) :
    Splits ("<" ++ name ++ ">").toList [tagged name] := by
  intro rest
  simp [piecesFrom, piecesFrom_inside plain, tagged]

theorem splits_element (tag : String) (plain : '>' ∉ tag.toList) (head : Splits first before) :
    Splits (element tag first) (wrapped tag before) := by
  have closing : Splits ("</" ++ tag ++ ">").toList [tagged ("/" ++ tag)] := by
    have ends := splits_tag ("/" ++ tag) (by simpa using plain)
    rwa [← String.append_assoc] at ends
  exact ((splits_tag tag plain).append head).append closing

end Splitting

theorem splits_row (tag : String) (plain : '>' ∉ tag.toList) (cells : List String) :
    Splits (row tag cells) (rowPieces tag cells) :=
  splits_element "tr" (by decide)
    (Splits.flatMap (fun cell => splits_element tag plain (splits_escape cell)) cells)

theorem pieces_body (caption : String) (header : List String) (rows : List (List String)) :
    pieces (body caption header rows) = Shown.pieces { caption, header, rows } := by
  have opening : Splits "<br><br><table border=\"1\">".toList
      (["br", "br", "table border=\"1\""].map tagged) :=
    ((splits_tag "br" (by decide)).append (splits_tag "br" (by decide))).append
      (splits_tag "table border=\"1\"" (by decide))
  have all := ((((splits_element "b" (by decide) (splits_escape caption)).append
    opening).append (splits_row "th" (by decide) header)).append
    (Splits.flatMap (splits_row "td" (by decide)) rows)).append
    (splits_tag "/table" (by decide))
  have whole := all []
  rw [pieces, body, String.toList_ofList]
  simpa [piecesFrom, Shown.pieces, cellPieces] using whole

section Reading

theorem textFront_spelled (text name : String) (rest : List Piece) :
    textFront (spelled text ++ tagged name :: rest) = (text.toList, tagged name :: rest) := by
  rw [spelled]
  induction text.toList with
  | nil => rfl
  | cons c text ih => simp [textFront, ih]

theorem readElement_cell (tag cell : String) (rest : List Piece) :
    readElement tag (cellPieces tag cell ++ rest) = some (cell, rest) := by
  simp [readElement, cellPieces, wrapped, expectTags, textFront_spelled]

variable (tag : String)

theorem readCells_cells (other : tagged tag ≠ tagged "/tr") (cells : List String)
    (rest : List Piece) {fuel : Nat} (enough : (cells.flatMap (cellPieces tag)).length < fuel) :
    readCells tag fuel (cells.flatMap (cellPieces tag) ++ tagged "/tr" :: rest) =
      some (cells, rest) := by
  induction cells generalizing fuel with
  | nil =>
    obtain ⟨fuel, rfl⟩ := Nat.exists_eq_succ_of_ne_zero (Nat.ne_zero_of_lt enough)
    simp [readCells, expectTags]
  | cons cell cells ih =>
    obtain ⟨fuel, rfl⟩ := Nat.exists_eq_succ_of_ne_zero (Nat.ne_zero_of_lt enough)
    have fewer : (cells.flatMap (cellPieces tag)).length < fuel := by
      simp [cellPieces, wrapped] at enough ⊢
      omega
    -- A cell begins with its own tag, and so does not end the row.
    have goesOn (later : List Piece) :
        expectTags ["/tr"] (cellPieces tag cell ++ later) = none := by
      simp [cellPieces, wrapped, expectTags, other]
    simp [readCells, goesOn, readElement_cell, ih fewer]

theorem readRow_row (other : tagged tag ≠ tagged "/tr") (cells : List String) (rest : List Piece) :
    readRow tag (rowPieces tag cells ++ rest) = some (cells, rest) := by
  have inside := readCells_cells tag other cells rest
    (Nat.lt_succ_of_le (Nat.le_add_right _ (rest.length + 1)))
  simpa [readRow, rowPieces, wrapped, expectTags, Nat.add_assoc] using inside

theorem readRows_rows (rows : List (List String)) {fuel : Nat}
    (enough : (rows.flatMap (rowPieces "td")).length < fuel) :
    readRows fuel (rows.flatMap (rowPieces "td") ++ [tagged "/table"]) = some rows := by
  induction rows generalizing fuel with
  | nil =>
    obtain ⟨fuel, rfl⟩ := Nat.exists_eq_succ_of_ne_zero (Nat.ne_zero_of_lt enough)
    simp [readRows]
  | cons row rows ih =>
    obtain ⟨fuel, rfl⟩ := Nat.exists_eq_succ_of_ne_zero (Nat.ne_zero_of_lt enough)
    have fewer : (rows.flatMap (rowPieces "td")).length < fuel := by
      simp [rowPieces, wrapped] at enough ⊢
      omega
    have goesOn (later : List Piece) : rowPieces "td" row ++ later ≠ [tagged "/table"] := by
      simp [rowPieces, wrapped]
    simp [readRows, goesOn, readRow_row "td" (by decide), ih fewer]

theorem readShown_body (caption : String) (header : List String) (rows : List (List String)) :
    readShown (body caption header rows) = some { caption, header, rows } := by
  have between (rest : List Piece) : expectTags ["br", "br", "table border=\"1\""]
      (["br", "br", "table border=\"1\""].map tagged ++ rest) = some rest := by
    simp [expectTags]
  have table : (rows.flatMap (rowPieces "td")).length <
      (rows.flatMap (rowPieces "td") ++ [tagged "/table"]).length + 1 := by
    rw [List.length_append]
    omega
  simp only [readShown, pieces_body, Shown.pieces, List.append_assoc, readElement_cell, between,
    readRow_row "th" (by decide), readRows_rows rows table, Option.bind_eq_bind,
    Option.bind_some]

end Reading

section Outline

def Piece.tag? : Piece → Option String
  | .tag content => some (String.ofList content)
  | .char _ => none

def tags (html : String) : List String := (pieces html).filterMap Piece.tag?

def rowTags (tag : String) (cells : Nat) : List String :=
  "tr" :: ((List.replicate cells [tag, "/" ++ tag]).flatten ++ ["/tr"])

def outline (header : Nat) (rows : List Nat) : List String :=
  ["b", "/b", "br", "br", "table border=\"1\""] ++ rowTags "th" header ++
    rows.flatMap (rowTags "td") ++ ["/table"]

@[simp] theorem tag?_tagged (name : String) : (tagged name).tag? = some name := by
  simp [tagged, Piece.tag?]

@[simp] theorem tag?_spelled (text : String) : (spelled text).filterMap Piece.tag? = [] := by
  simp [spelled, Piece.tag?, List.filterMap_map, Function.comp_def]

@[simp] theorem tag?_wrapped (tag : String) (content : List Piece) :
    (wrapped tag content).filterMap Piece.tag? =
      tag :: (content.filterMap Piece.tag? ++ ["/" ++ tag]) := by
  simp [wrapped]

theorem tag?_row (tag : String) (cells : List String) :
    (rowPieces tag cells).filterMap Piece.tag? = rowTags tag cells.length := by
  have each : (cells.flatMap (cellPieces tag)).filterMap Piece.tag? =
      (List.replicate cells.length [tag, "/" ++ tag]).flatten := by
    induction cells with
    | nil => rfl
    | cons cell cells ih => simp [cellPieces, List.replicate_succ, ih]
  rw [rowPieces, tag?_wrapped, each]
  rfl

theorem tags_body (caption : String) (header : List String) (rows : List (List String)) :
    tags (body caption header rows) = outline header.length (rows.map List.length) := by
  have each : (rows.flatMap (rowPieces "td")).filterMap Piece.tag? =
      (rows.map List.length).flatMap (rowTags "td") := by
    induction rows with
    | nil => rfl
    | cons row rows ih => simp [tag?_row, ih]
  simp [tags, pieces_body, Shown.pieces, cellPieces, outline, tag?_row, each]

end Outline

/-- Whatever the texts are, a body reads back as the caption, the header and the rows it was made
of. -/
theorem bodies_read_back (caption : String) (header : List String) (rows : List (List String)) :
    readShown (body caption header rows) = some { caption, header, rows } ∧
      tags (body caption header rows) = outline header.length (rows.map List.length) ∧
      ∀ otherCaption otherHeader otherRows,
        body otherCaption otherHeader otherRows = body caption header rows →
          otherCaption = caption ∧ otherHeader = header ∧ otherRows = rows := by
  have back := readShown_body caption header rows
  refine ⟨back, tags_body caption header rows, ?_⟩
  intro otherCaption otherHeader otherRows same
  have other := readShown_body otherCaption otherHeader otherRows
  rw [same, back] at other
  cases other
  exact ⟨rfl, rfl, rfl⟩

end TicketReports.Html
