import TicketReports.Report.Error
import TicketReports.Report.FileName
import TicketReports.Text.Split

set_option autoImplicit false

namespace TicketReports.Report

def nameLimit : Nat := 255

def pathLimit : Nat := 4095

def pathFlaw? (path : String) : Option FileError :=
  if path.toList.contains '\x00' then some .nul
  else if pathLimit < path.utf8ByteSize then some .nameTooLong
  else none

def names (path : String) : List String :=
  ((Text.splitAll '/' path.toList).map String.ofList).filter (· ≠ "")

def placeFlaw? (dir : String) : Option FileError :=
  match pathFlaw? dir with
  | some flaw => some flaw
  | none => if (names dir).any (nameLimit < ·.utf8ByteSize) then some .nameTooLong else none

-- Where the names lead, from the innermost directory out, and every place entered on the way.
def walk (place : List String) (entered : List (List String)) :
    List String → List String × List (List String)
  | [] => (place, entered)
  | "." :: rest => walk place entered rest
  | ".." :: rest => walk (place.drop 1) entered rest
  | name :: rest => walk (name :: place) ((name :: place) :: entered) rest

def destination (dir : String) : List String := (walk [] [] (names dir)).1

-- The directories within the destination that a path enters and leaves again.
def detours (dir : String) : List String :=
  let (place, entered) := walk [] [] (names dir)
  (entered.filterMap fun path =>
    match path with
    | name :: outer => if outer = place then some name else none
    | [] => none).eraseDups

def spells (dir place : String) : Bool :=
  destination dir == destination place && (detours dir).isEmpty

-- Whether a path names its directory and then a dot. Such a path can neither make the directory nor
-- take it away.
def endsInDot (dir : String) : Bool :=
  match (names dir).reverse with
  | "." :: rest => rest.find? (· ≠ ".") != some ".."
  | _ => false

end TicketReports.Report
