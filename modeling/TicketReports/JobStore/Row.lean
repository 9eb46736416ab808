import TicketReports.JobStore.Error
import TicketReports.Sql.Server

set_option autoImplicit false

namespace TicketReports

namespace Timestamp

-- 2000-01-01T00:00:00Z.
def year2000 : Int := 946684800

def toMicros (t : Timestamp) : Int :=
  ((t.seconds - year2000) * 1000000000 + t.nanos).tdiv 1000

def ofMicros (micros : Int) : Timestamp :=
  { seconds := year2000 + micros / 1000000, nanos := (micros % 1000000).toNat * 1000 }

end Timestamp

namespace JobRow

open Sql

def stamp : Option Timestamp → Value
  | some t => .moment t.toMicros
  | none => .null

def statusText : Option FinalStatus → Value
  | some status => .text status.text
  | none => .null

def progressValues (job : Job) : List Value :=
  statusText job.outcome ::
    Phase.all.flatMap fun phase =>
      let stamps := job.progress.get phase
      [stamp stamps.started, stamp stamps.finished]

def insertion (id : JobId) (job : Job) : Query :=
  { statement := .insert Column.all
    parameters :=
      .id id :: .text job.kind.name :: .moment job.createdAt.toMicros :: progressValues job }

def change (id : JobId) (job : Job) : Query :=
  { statement := .update Column.progress, parameters := .id id :: progressValues job }

inductive Flaw where
  | missing (column : Column)
  | unexpectedNull (column : Column)
  | mismatch (column : Column)
  | domain (error : DomainError)
  deriving DecidableEq, Repr

def undecodable (column : Column) (reason : String) : String :=
  "error occurred while decoding column \"" ++ column.name ++ "\": " ++ reason

def Flaw.message : Flaw → String
  | .missing column => "no column found for name: " ++ column.name
  | .unexpectedNull column =>
    undecodable column "unexpected null; try decoding as an \x60Option\x60"
  | .mismatch column => undecodable column "mismatched types"
  | .domain error => error.message

def nullable {α : Type} (read : Value → Option α) (row : ResultRow) (column : Column) :
    Except Flaw (Option α) :=
  match row column with
  | none => .error (.missing column)
  | some .null => .ok none
  | some value =>
    match read value with
    | some value => .ok (some value)
    | none => .error (.mismatch column)

def required {α : Type} (read : Value → Option α) (row : ResultRow) (column : Column) :
    Except Flaw α := do
  match ← nullable read row column with
  | some value => .ok value
  | none => .error (.unexpectedNull column)

def id? : Value → Option JobId
  | .id value => some value
  | _ => none

def text? : Value → Option String
  | .text value => some value
  | _ => none

def moment? : Value → Option Timestamp
  | .moment micros => some (.ofMicros micros)
  | _ => none

def stamps (row : ResultRow) (phase : Phase) : Except Flaw Stamps := do
  let started ← nullable moment? row (.started phase)
  let finished ← nullable moment? row (.finished phase)
  .ok { started, finished }

def decode (row : ResultRow) : Except Flaw Job := do
  let id ← required id? row .id
  let kind ← required text? row .kind
  let kind ← (JobKind.read kind).mapError Flaw.domain
  let createdAt ← required moment? row .createdAt
  let status ← nullable text? row .finalStatus
  let outcome ← match status with
    | none => .ok none
    | some text => ((FinalStatus.read text).mapError Flaw.domain).map some
  let channelsDownload ← stamps row .channelsDownload
  let usersDownload ← stamps row .usersDownload
  let ticketsDownload ← stamps row .ticketsDownload
  let workbookGeneration ← stamps row .workbookGeneration
  let mailSending ← stamps row .mailSending
  .ok
    { id := some id
      kind
      createdAt
      progress :=
        { channelsDownload, usersDownload, ticketsDownload, workbookGeneration, mailSending }
      outcome }

def read (row : ResultRow) : Except StoreError Job :=
  (decode row).mapError fun flaw => .storage ("failed to decode job row: " ++ flaw.message)

end JobRow

end TicketReports
