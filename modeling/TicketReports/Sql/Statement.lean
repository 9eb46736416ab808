import TicketReports.Job.Record

set_option autoImplicit false

namespace TicketReports.Sql

inductive Column where
  | id
  | kind
  | createdAt
  | finalStatus
  | started (phase : Phase)
  | finished (phase : Phase)
  deriving DecidableEq, Repr

namespace Column

def name : Column → String
  | .id => "uuid"
  | .kind => "job_type"
  | .createdAt => "created_at"
  | .finalStatus => "final_status"
  | .started phase => phase.startedKey
  | .finished phase => phase.finishedKey

def progress : List Column :=
  .finalStatus :: Phase.all.flatMap fun phase => [.started phase, .finished phase]

def all : List Column := [.id, .kind, .createdAt] ++ progress

def type : Column → String
  | .id => "UUID PRIMARY KEY"
  | .kind => "TEXT NOT NULL"
  | .createdAt => "TIMESTAMPTZ NOT NULL"
  | .finalStatus => "TEXT NULL"
  | .started _ => "TIMESTAMPTZ NULL"
  | .finished _ => "TIMESTAMPTZ NULL"

end Column

-- A moment stands in microseconds from 2000-01-01.
inductive Value where
  | null
  | id (value : JobId)
  | text (value : String)
  | moment (micros : Int)
  | integer (value : Int64)
  deriving DecidableEq, Repr

inductive Filter where
  | everything
  | byId
  | unfinished
  deriving DecidableEq, Repr

inductive Order where
  | unordered
  | newestFirst
  | oldestFirst
  deriving DecidableEq, Repr

inductive Window where
  | unlimited
  | first
  | page
  deriving DecidableEq, Repr

inductive Statement where
  | createTable
  -- The parameters stand in the order of the columns.
  | insert (columns : List Column)
  -- The first parameter is the id, the others stand in the order of the columns.
  | update (columns : List Column)
  | select (filter : Filter) (order : Order) (window : Window)
  deriving DecidableEq, Repr

structure Query where
  statement : Statement
  parameters : List Value := []
  deriving DecidableEq, Repr

def placeholder (n : Nat) : String := "$" ++ toString n

def joined (parts : List String) : String := String.intercalate ", " parts

def Filter.text : Filter → String
  | .everything => ""
  | .byId => " WHERE uuid = $1"
  | .unfinished => " WHERE final_status IS NULL"

def Order.text : Order → String
  | .unordered => ""
  | .newestFirst => " ORDER BY created_at DESC, uuid DESC"
  | .oldestFirst => " ORDER BY created_at, uuid"

def Window.text : Window → String
  | .unlimited => ""
  | .first => " LIMIT 1"
  | .page => " LIMIT $1 OFFSET $2"

def Statement.text : Statement → String
  | .createTable =>
    "CREATE TABLE IF NOT EXISTS jobs ( " ++
      joined (Column.all.map fun column => column.name ++ " " ++ column.type) ++ " )"
  | .insert columns =>
    "INSERT INTO jobs ( " ++ joined (columns.map Column.name) ++ " ) VALUES (" ++
      joined ((List.range columns.length).map fun n => placeholder (n + 1)) ++ ")"
  | .update columns =>
    "UPDATE jobs SET " ++
      joined (columns.zipIdx.map fun (column, n) => column.name ++ " = " ++ placeholder (n + 2)) ++
      " WHERE uuid = $1"
  | .select filter order window =>
    "SELECT " ++ joined (Column.all.map Column.name) ++ " FROM jobs" ++ filter.text ++ order.text ++
      window.text

end TicketReports.Sql
