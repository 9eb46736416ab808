import TicketReports.Text.Hex
import TicketReports.Text.Split

set_option autoImplicit false

namespace TicketReports.Text.Table

def words (lines : List String) : List (List Char) :=
  lines.flatMap fun line => splitAll ' ' line.toList

-- A range such as `41-5A`, or a single code.
def range (word : List Char) : Nat × Nat :=
  match splitAll '-' word with
  | [first, last] => (hexNumber first, hexNumber last)
  | _ => (hexNumber word, hexNumber word)

def ranges (lines : List String) : List (Nat × Nat) := (words lines).map range

def covers (ranges : List (Nat × Nat)) (code : Nat) : Bool :=
  ranges.any fun (first, last) => first ≤ code && code ≤ last

-- What the codes from a first one on are spelled as, such as `C0=41.300,41.301`.
def row (word : List Char) : List (Nat × List Nat) :=
  match splitAll '=' word with
  | [first, spellings] =>
    (splitAll ',' spellings).zipIdx.map fun (spelling, i) =>
      (hexNumber first + i, (splitAll '.' spelling).map hexNumber)
  | _ => []

def rows (lines : List String) : List (Nat × List Nat) := (words lines).flatMap row

end TicketReports.Text.Table
