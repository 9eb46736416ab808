set_option autoImplicit false

namespace TicketReports.Html

/-- What HTML consists of: tags, with all that stands between their angle brackets, and single
characters of text. -/
inductive Piece where
  | tag (content : List Char)
  | char (c : Char)
  deriving DecidableEq, Repr

def references : List (List Char × Char) :=
  [("&amp;".toList, '&'), ("&lt;".toList, '<'), ("&gt;".toList, '>'), ("&quot;".toList, '"')]

def reference? (text : List Char) : Option (Char × List Char) :=
  (references.find? fun entry => entry.1.isPrefixOf text).map fun entry =>
    (entry.2, text.drop entry.1.length)

-- `open?` holds the content of a tag not yet closed, in reverse, and `skip` counts characters of a
-- reference that has been resolved.
def piecesFrom : Option (List Char) → Nat → List Char → List Piece
  | _, _, [] => []
  | inside, skip + 1, _ :: rest => piecesFrom inside skip rest
  | some content, 0, c :: rest =>
    if c = '>' then .tag content.reverse :: piecesFrom none 0 rest
    else piecesFrom (some (c :: content)) 0 rest
  | none, 0, c :: rest =>
    if c = '<' then piecesFrom (some []) 0 rest
    else
      match reference? (c :: rest) with
      | some (meant, after) => .char meant :: piecesFrom none (rest.length - after.length) rest
      | none => .char c :: piecesFrom none 0 rest

def pieces (html : String) : List Piece := piecesFrom none 0 html.toList

def tagged (name : String) : Piece := .tag name.toList

def textFront : List Piece → List Char × List Piece
  | .char c :: rest =>
    let (text, rest) := textFront rest
    (c :: text, rest)
  | rest => ([], rest)

def expectTags : List String → List Piece → Option (List Piece)
  | [], pieces => some pieces
  | name :: names, piece :: pieces => if piece = tagged name then expectTags names pieces else none
  | _ :: _, [] => none

def readElement (tag : String) (pieces : List Piece) : Option (String × List Piece) := do
  let rest ← expectTags [tag] pieces
  let (text, rest) := textFront rest
  let rest ← expectTags ["/" ++ tag] rest
  some (String.ofList text, rest)

def readCells (tag : String) : Nat → List Piece → Option (List String × List Piece)
  | 0, _ => none
  | fuel + 1, pieces =>
    match expectTags ["/tr"] pieces with
    | some rest => some ([], rest)
    | none => do
      let (cell, rest) ← readElement tag pieces
      let (cells, rest) ← readCells tag fuel rest
      some (cell :: cells, rest)

def readRow (tag : String) (pieces : List Piece) : Option (List String × List Piece) := do
  let rest ← expectTags ["tr"] pieces
  readCells tag (rest.length + 1) rest

def readRows : Nat → List Piece → Option (List (List String))
  | 0, _ => none
  | fuel + 1, pieces =>
    if pieces = [tagged "/table"] then some []
    else do
      let (row, rest) ← readRow "td" pieces
      let rows ← readRows fuel rest
      some (row :: rows)

structure Shown where
  caption : String
  header : List String
  rows : List (List String)
  deriving DecidableEq, Repr

def readShown (html : String) : Option Shown := do
  let (caption, rest) ← readElement "b" (pieces html)
  let rest ← expectTags ["br", "br", "table border=\"1\""] rest
  let (header, rest) ← readRow "th" rest
  let rows ← readRows (rest.length + 1) rest
  some { caption, header, rows }

end TicketReports.Html
