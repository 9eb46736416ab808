import TicketReports.Job.Error

set_option autoImplicit false

namespace TicketReports

/-- Whom a report is for: each engineer gets the open tickets assigned to them, the service desk
gets every open ticket. -/
inductive Audience where
  | fieldEngineers
  | serviceDesk
  deriving DecidableEq, Repr

namespace Audience

def all : List Audience := [.fieldEngineers, .serviceDesk]

def name : Audience → String
  | .fieldEngineers => "field engineers"
  | .serviceDesk => "service desk"

def ofName? (text : String) : Option Audience := all.find? fun audience => audience.name == text

@[simp] theorem ofName?_name (audience : Audience) : ofName? audience.name = some audience := by
  cases audience <;> decide

end Audience

inductive JobKind where
  | all
  | fieldEngineers
  | serviceDesk
  deriving DecidableEq, Repr

namespace JobKind

def every : List JobKind := [.all, .fieldEngineers, .serviceDesk]

def name : JobKind → String
  | .all => "all"
  | .fieldEngineers => "FE report only"
  | .serviceDesk => "SD report only"

def includes : JobKind → Audience → Bool
  | .all, _ => true
  | .fieldEngineers, audience => audience == .fieldEngineers
  | .serviceDesk, audience => audience == .serviceDesk

def audiences (kind : JobKind) : List Audience := Audience.all.filter kind.includes

def ofName? (text : String) : Option JobKind := every.find? fun kind => kind.name == text

def read (text : String) : Except DomainError JobKind :=
  match ofName? text with
  | some kind => .ok kind
  | none => .error (.validation ("unknown '" ++ text ++ "' job type"))

@[simp] theorem ofName?_name (kind : JobKind) : ofName? kind.name = some kind := by
  cases kind <;> decide

end JobKind

end TicketReports
