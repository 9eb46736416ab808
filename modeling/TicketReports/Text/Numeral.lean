set_option autoImplicit false

namespace TicketReports.Text

inductive NumeralError where
  | empty
  | invalidDigit
  | tooLarge
  deriving DecidableEq, Repr

def NumeralError.message : NumeralError → String
  | .empty => "cannot parse integer from empty string"
  | .invalidDigit => "invalid digit found in string"
  | .tooLarge => "number too large to fit in target type"

def digit? (c : Char) : Option Nat :=
  if c.isDigit then some (c.toNat - '0'.toNat) else none

-- Reads digits onto `value`; the first character that is no digit, or the first digit that passes
-- `limit`, decides the refusal.
def readDigits (limit : Nat) : Nat → List Char → Except NumeralError Nat
  | value, [] => .ok value
  | value, c :: rest =>
    match digit? c with
    | none => .error .invalidDigit
    | some d =>
      if value * 10 + d ≤ limit then readDigits limit (value * 10 + d) rest else .error .tooLarge

def readNumeral (limit : Nat) : List Char → Except NumeralError Nat
  | [] => .error .empty
  | ['+'] => .error .invalidDigit
  | '+' :: digits => readDigits limit 0 digits
  | digits => readDigits limit 0 digits

def limit32 : Nat := UInt32.size - 1

def limit64 : Nat := UInt64.size - 1

def padLeft (width : Nat) (digits : String) : String :=
  String.ofList (List.replicate (width - digits.length) '0') ++ digits

def decimal (width n : Nat) : String :=
  padLeft width (toString n)

end TicketReports.Text
