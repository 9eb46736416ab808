import TicketReports.Sql.Statement
import TicketReports.Text.Split

set_option autoImplicit false

namespace TicketReports.Sql

/-- What the text of a statement says. A column stands beside the number of the value it takes. -/
inductive Command where
  | create (columns : List (Column × List String))
  | insert (places : List (Column × Nat))
  | update (places : List (Column × Nat)) (key : Column × Nat)
  | select (columns : List Column) (filter : Filter) (order : Order) (window : Window)
  deriving DecidableEq, Repr

namespace Command

@[simp] def wordSoFar (letters : List Char) : List String :=
  if letters.isEmpty then [] else [String.ofList letters.reverse]

def isMark (c : Char) : Bool := c == ',' || c == '(' || c == ')' || c == '='

@[simp] def wordsFrom : List Char → List Char → List String
  | letters, [] => wordSoFar letters
  | letters, c :: rest =>
    if c = ' ' then wordSoFar letters ++ wordsFrom [] rest
    else if isMark c then
      wordSoFar letters ++ String.ofList [c] :: wordsFrom [] rest
    else wordsFrom (c :: letters) rest

def parts (words : List String) : List (List String) := Text.splitWhere (· == ",") words

def upTo (last : String) (words : List String) : Option (List String × List String) :=
  match words.dropWhile (· != last) with
  | _ :: rest => some (words.takeWhile (· != last), rest)
  | [] => none

def column? (word : String) : Option Column := Column.all.find? fun column => column.name == word

def number? (word : String) : Option Nat :=
  match word.toList with
  | '$' :: digits =>
    if digits.all Char.isDigit then some (Nat.ofDigitChars 10 digits 0) else none
  | _ => none

def only? {α : Type} (read : String → Option α) : List String → Option α
  | [word] => read word
  | _ => none

def place? : List String → Option (Column × Nat)
  | [name, "=", number] => do some (← column? name, ← number? number)
  | _ => none

def declaration? : List String → Option (Column × List String)
  | name :: type => (column? name).map fun column => (column, type)
  | [] => none

def after? : List String → List String → Option (List String)
  | [], words => some words
  | expected :: others, word :: words => if word = expected then after? others words else none
  | _ :: _, [] => none

def filterFront (words : List String) : Filter × List String :=
  match after? ["WHERE", "uuid", "=", "$1"] words,
    after? ["WHERE", "final_status", "IS", "NULL"] words with
  | some rest, _ => (.byId, rest)
  | none, some rest => (.unfinished, rest)
  | none, none => (.everything, words)

def orderFront (words : List String) : Order × List String :=
  match after? ["ORDER", "BY", "created_at", "DESC", ",", "uuid", "DESC"] words,
    after? ["ORDER", "BY", "created_at", ",", "uuid"] words with
  | some rest, _ => (.newestFirst, rest)
  | none, some rest => (.oldestFirst, rest)
  | none, none => (.unordered, words)

def window? (words : List String) : Option Window :=
  if words = [] then some .unlimited
  else if words = ["LIMIT", "1"] then some .first
  else if words = ["LIMIT", "$1", "OFFSET", "$2"] then some .page
  else none

def create? (words : List String) : Option Command := do
  let (columns, rest) ← upTo ")" words
  let columns ← (parts columns).mapM declaration?
  if rest = [] then some (.create columns) else none

def insert? (words : List String) : Option Command := do
  let (names, rest) ← upTo ")" words
  let (values, rest) ← upTo ")" (← after? ["VALUES", "("] rest)
  let columns ← (parts names).mapM (only? column?)
  let numbers ← (parts values).mapM (only? number?)
  if rest = [] ∧ columns.length = numbers.length then some (.insert (columns.zip numbers)) else none

def update? (words : List String) : Option Command := do
  let (settings, condition) ← upTo "WHERE" words
  some (.update (← (parts settings).mapM place?) (← place? condition))

def choice? (words : List String) : Option (Filter × Order × Window) := do
  let (filter, words) := filterFront words
  let (order, words) := orderFront words
  some (filter, order, ← window? words)

def select? (words : List String) : Option Command := do
  let (names, rest) ← upTo "FROM" words
  let columns ← (parts names).mapM (only? column?)
  let (filter, order, window) ← choice? (← after? ["jobs"] rest)
  some (.select columns filter order window)

def ofWords? (words : List String) : Option Command :=
  (after? ["CREATE", "TABLE", "IF", "NOT", "EXISTS", "jobs", "("] words >>= create?) <|>
    (after? ["INSERT", "INTO", "jobs", "("] words >>= insert?) <|>
    (after? ["UPDATE", "jobs", "SET"] words >>= update?) <|> (after? ["SELECT"] words >>= select?)

def read? (text : String) : Option Command := ofWords? (wordsFrom [] text.toList)

end Command

end TicketReports.Sql
