import TicketReports.Text.Hex
import TicketReports.Text.Split

set_option autoImplicit false

namespace TicketReports.Url.Ipv4

def number? (base : Nat) (digits : List Char) : Option Nat :=
  digits.foldlM (fun value c => do
    let digit ← Text.hexValue? c
    if digit < base then some (value * base + digit) else none) 0

def part? : List Char → Option Nat
  | [] => none
  | '0' :: 'x' :: digits => number? 16 digits
  | '0' :: 'X' :: digits => number? 16 digits
  | '0' :: c :: digits => number? 8 (c :: digits)
  | digits => number? 10 digits

def labels (name : List Char) : List (List Char) :=
  let labels := Text.splitAll '.' name
  if labels.getLast? = some [] then labels.dropLast else labels

-- Whether a name has to be a numeric host: its last label is a number, if only by its digits.
def claims (name : List Char) : Bool :=
  match (labels name).getLast? with
  | some label => !label.isEmpty && (label.all Char.isDigit || (part? label).isSome)
  | none => false

def read? (name : List Char) : Option Nat := do
  let parts ← (labels name).mapM part?
  let last ← parts.getLast?
  let front := parts.dropLast
  if 3 < front.length ∨ front.any (255 < ·) then none
  else
    let room := 1 <<< (8 * (4 - front.length))
    if room ≤ last then none
    else some (front.foldl (fun value part => value * 256 + part) 0 * room + last)

def byte? (digits : List Char) : Option Nat :=
  if digits.head? = some '0' ∧ digits ≠ ['0'] then none
  else if digits.isEmpty then none
  else (number? 10 digits).filter (· ≤ 255)

def bytes? (text : List Char) : Option Nat := do
  match ← (Text.splitAll '.' text).mapM byte? with
  | [a, b, c, d] => some (((a * 256 + b) * 256 + c) * 256 + d)
  | _ => none

def text (address : Nat) : String :=
  ".".intercalate ([24, 16, 8, 0].map fun shift => toString (address >>> shift % 256))

end TicketReports.Url.Ipv4
