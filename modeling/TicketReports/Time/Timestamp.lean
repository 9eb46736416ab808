import TicketReports.Text.Numeral
import TicketReports.Time.Calendar

set_option autoImplicit false

namespace TicketReports

/-- Seconds since 1970-01-01T00:00:00Z and nanoseconds added to them. A value of 10^9 nanoseconds or
more is a leap second: second 60 of its minute. -/
structure Timestamp where
  seconds : Int
  nanos : Nat
  deriving DecidableEq, Repr

namespace Timestamp

def le (a b : Timestamp) : Bool :=
  a.seconds < b.seconds || (a.seconds == b.seconds && a.nanos ≤ b.nanos)

instance : LE Timestamp := ⟨fun a b => a.le b = true⟩

instance (a b : Timestamp) : Decidable (a ≤ b) := inferInstanceAs (Decidable (a.le b = true))

def date (t : Timestamp) : Date := Date.ofDays (t.seconds / 86400)

def secondOfDay (t : Timestamp) : Nat := (t.seconds % 86400).toNat

def yearText (year : Int) : String :=
  if 0 ≤ year ∧ year ≤ 9999 then Text.decimal 4 year.toNat
  else (if year < 0 then "-" else "+") ++ Text.decimal 4 year.natAbs

def dateText (date : Date) : String :=
  yearText date.year ++ "-" ++ Text.decimal 2 date.month ++ "-" ++ Text.decimal 2 date.day

def fractionText (nanos : Nat) : String :=
  if nanos = 0 then ""
  else if nanos % 1000000 = 0 then "." ++ Text.decimal 3 (nanos / 1000000)
  else if nanos % 1000 = 0 then "." ++ Text.decimal 6 (nanos / 1000)
  else "." ++ Text.decimal 9 nanos

def clockText (t : Timestamp) : String :=
  let second := t.secondOfDay
  let leap := t.nanos / 1000000000
  Text.decimal 2 (second / 3600) ++ ":" ++ Text.decimal 2 (second / 60 % 60) ++ ":" ++
    Text.decimal 2 (second % 60 + leap) ++ fractionText (t.nanos % 1000000000)

def rfc3339With (offset : String) (t : Timestamp) : String :=
  dateText t.date ++ "T" ++ t.clockText ++ offset

def rfc3339 (t : Timestamp) : String := t.rfc3339With "+00:00"

def minuteText (t : Timestamp) : String :=
  dateText t.date ++ " " ++ Text.decimal 2 (t.secondOfDay / 3600) ++ ":" ++
    Text.decimal 2 (t.secondOfDay / 60 % 60)

-- Reading.

def takeDigits : Nat → Nat → List Char → Option (Nat × List Char)
  | 0, value, rest => some (value, rest)
  | width + 1, value, c :: rest =>
    (Text.digit? c).bind fun d => takeDigits width (value * 10 + d) rest
  | _ + 1, _, [] => none

def expect (accepted : List Char) : List Char → Option (List Char)
  | c :: rest => if c ∈ accepted then some rest else none
  | [] => none

def fractionNanos (digits : List Char) : Nat :=
  let kept := (digits.take 9).filterMap Text.digit?
  (kept ++ List.replicate (9 - kept.length) 0).foldl (fun value d => value * 10 + d) 0

def readFraction : List Char → Option (Nat × List Char)
  | '.' :: rest =>
    let digits := rest.takeWhile Char.isDigit
    if digits.isEmpty then none else some (fractionNanos digits, rest.dropWhile Char.isDigit)
  | rest => some (0, rest)

def readOffset : List Char → Option Int
  | ['Z'] => some 0
  | ['z'] => some 0
  | sign :: rest => do
    let factor ←
      if sign = '+' then some 1
      else if sign = '-' ∨ sign = '\u2212' then some (-1)
      else none
    let (hours, rest) ← takeDigits 2 0 rest
    let rest ← expect [':'] rest
    let (minutes, rest) ← takeDigits 2 0 rest
    if hours ≤ 23 ∧ minutes ≤ 59 ∧ rest = [] then
      some (factor * ((hours * 3600 + minutes * 60 : Nat) : Int))
    else none
  | [] => none

def readChars (text : List Char) : Option Timestamp := do
  let (year, rest) ← takeDigits 4 0 text
  let rest ← expect ['-'] rest
  let (month, rest) ← takeDigits 2 0 rest
  let rest ← expect ['-'] rest
  let (day, rest) ← takeDigits 2 0 rest
  let rest ← expect ['T', 't', ' '] rest
  let (hour, rest) ← takeDigits 2 0 rest
  let rest ← expect [':'] rest
  let (minute, rest) ← takeDigits 2 0 rest
  let rest ← expect [':'] rest
  let (second, rest) ← takeDigits 2 0 rest
  let (nanos, rest) ← readFraction rest
  let offset ← readOffset rest
  let date : Date := { year := year, month := month, day := day }
  if date.Valid ∧ hour ≤ 23 ∧ minute ≤ 59 ∧ second ≤ 60 then
    let whole := min second 59
    let leap := if second = 60 then 1000000000 else 0
    let ofDay : Nat := hour * 3600 + minute * 60 + whole
    some { seconds := date.toDays * 86400 + ofDay - offset, nanos := nanos + leap }
  else none

-- Second 60 is accepted in any minute and stays a leap second after the shift to UTC.
def read? (text : String) : Option Timestamp := readChars text.toList

end Timestamp

end TicketReports
