import TicketReports.Job.Error
import TicketReports.Text.Numeral

set_option autoImplicit false

namespace TicketReports

structure Page where
  number : UInt32
  size : UInt32
  number_ne : number ≠ 0
  size_ne : size ≠ 0
  deriving DecidableEq

namespace Page

def jobsPerPage : UInt32 := 10

def new (number size : UInt32) : Except DomainError Page :=
  if number_eq : number = 0 then .error (.validation "page number must be at least 1")
  else if size_eq : size = 0 then .error (.validation "page size must be at least 1")
  else .ok ⟨number, size, number_eq, size_eq⟩

def ofJobs (number : UInt32) : Except DomainError Page := new number jobsPerPage

-- Entries before the page. Two 32-bit factors fit 64 bits, so nothing wraps.
def offset (page : Page) : UInt64 := (page.number - 1).toUInt64 * page.size.toUInt64

def window {α : Type} (page : Page) (entries : List α) : List α :=
  (entries.drop page.offset.toNat).take page.size.toNat

end Page

def Page.read : Option String → Except String UInt32
  | none => .ok 1
  | some text =>
    match Text.readNumeral Text.limit32 text.toList with
    | .ok (n + 1) => .ok (UInt32.ofNat (n + 1))
    | _ => .error ("invalid page '" ++ text ++ "': must be a positive integer")

end TicketReports
