import TicketReports.Url.Ipv4

set_option autoImplicit false

namespace TicketReports.Url.Ipv6

def piece? (digits : List Char) : Option Nat :=
  if !digits.isEmpty && digits.length ≤ 4 && digits.all Text.isHex then
    some (Text.hexNumber digits)
  else none

def pieces? (mixed : Bool) : List (List Char) → Option (List Nat)
  | [] => some []
  | [last] =>
    match piece? last with
    | some piece => some [piece]
    | none =>
      if mixed then (Ipv4.bytes? last).map fun n => [n / 0x10000, n % 0x10000] else none
  | first :: rest => do
    let piece ← piece? first
    some (piece :: (← pieces? mixed rest))

def side? (mixed : Bool) (text : List Char) : Option (List Nat) :=
  if text.isEmpty then some [] else pieces? mixed (Text.splitAll ':' text)

def splitGap? : List Char → Option (List Char × List Char)
  | ':' :: ':' :: rest => some ([], rest)
  | c :: rest => (splitGap? rest).map fun (before, after) => (c :: before, after)
  | [] => none

def read? (text : List Char) : Option (List Nat) :=
  match splitGap? text with
  | none => (pieces? true (Text.splitAll ':' text)).filter (·.length = 8)
  | some (before, after) => do
    let front ← side? false before
    let back ← side? true after
    let found := front.length + back.length
    if 7 < found then none else some (front ++ List.replicate (8 - found) 0 ++ back)

def zeros (pieces : List Nat) : Nat := (pieces.takeWhile (· == 0)).length

def longestZeros (pieces : List Nat) : Nat × Nat :=
  (List.range pieces.length).foldl (fun best start =>
    let length := zeros (pieces.drop start)
    if best.2 < length then (start, length) else best) (0, 0)

def joined (pieces : List Nat) : String :=
  ":".intercalate (pieces.map fun piece => String.ofList (Nat.toDigits 16 piece))

def text (pieces : List Nat) : String :=
  let (start, length) := longestZeros pieces
  if length < 2 then joined pieces
  else joined (pieces.take start) ++ "::" ++ joined (pieces.drop (start + length))

end TicketReports.Url.Ipv6
