import TicketReports.Sql.Server

set_option autoImplicit false

namespace TicketReports.Sql

abbrev Row := Column → Value

structure Table where
  rows : List Row := []

namespace Table

-- The value bound to a column; a column that is not named is null.
def bound (columns : List Column) (values : List Value) (column : Column) : Value :=
  ((columns.zip values).lookup column).getD .null

def overwrite (columns : List Column) (values : List Value) (row : Row) : Row := fun column =>
  ((columns.zip values).lookup column).getD (row column)

def hasId (id : Value) (row : Row) : Bool := row .id == id

def keeps (filter : Filter) (parameters : List Value) (row : Row) : Bool :=
  match filter with
  | .everything => true
  | .byId => hasId (parameters.head?.getD .null) row
  | .unfinished => row .finalStatus == .null

def older (a b : Row) : Bool :=
  match a .createdAt, b .createdAt with
  | .moment s, .moment t =>
    if s = t then
      match a .id, b .id with
      | .id i, .id j => i.le j
      | _, _ => true
    else s < t
  | _, _ => true

def ordered (order : Order) (rows : List Row) : List Row :=
  match order with
  | .unordered => rows
  | .newestFirst => rows.mergeSort fun a b => older b a
  | .oldestFirst => rows.mergeSort older

-- The rows in a window; a negative size or offset is refused.
def windowed (window : Window) (parameters : List Value) (rows : List Row) :
    Except Failure (List Row) :=
  match window, parameters with
  | .unlimited, _ => .ok rows
  | .first, _ => .ok (rows.take 1)
  | .page, [.integer size, .integer offset] =>
    if size < 0 then .error (.refused "2201W" "LIMIT must not be negative")
    else if offset < 0 then .error (.refused "2201X" "OFFSET must not be negative")
    else .ok ((rows.drop offset.toInt.toNat).take size.toInt.toNat)
  | .page, _ => .error (.refused "08P01" "bind message supplies wrong parameters")

def execute (query : Query) (table : Table) : Except Failure Result × Table :=
  match query.statement with
  | .createTable => (.ok {}, table)
  | .insert columns =>
    let row := bound columns query.parameters
    if table.rows.any (hasId (row .id)) then
      (.error (.refused uniqueViolation
        "duplicate key value violates unique constraint \"jobs_pkey\""), table)
    else (.ok { affected := 1 }, { rows := table.rows ++ [row] })
  | .update columns =>
    let id := query.parameters.head?.getD .null
    let values := query.parameters.drop 1
    (.ok { affected := table.rows.countP (hasId id) },
      { rows := table.rows.map fun row =>
          if hasId id row then overwrite columns values row else row })
  | .select filter order window =>
    let found := ordered order (table.rows.filter (keeps filter query.parameters))
    match windowed window query.parameters found with
    | .error failure => (.error failure, table)
    | .ok rows => (.ok { rows := rows.map fun row column => some (row column) }, table)

instance : Server Table where
  connect table := (.ok (), table)
  execute := execute

end Table

end TicketReports.Sql
