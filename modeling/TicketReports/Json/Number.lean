import TicketReports.Decimal.Shortest
import TicketReports.Json.Token

set_option autoImplicit false

namespace TicketReports.Json

def limit64 : Nat := UInt64.size - 1

def takeOnto (significand : Nat) : List Char → Nat × Nat
  | [] => (significand, 0)
  | c :: rest =>
    let next := significand * 10 + (c.toNat - '0'.toNat)
    if next ≤ limit64 then takeOnto next rest else (significand, rest.length + 1)

def exponentLimit : Nat := 0x7FFFFFFF

def scaled (value : Float) (exponent : Int) : Nat → Option Float
  | 0 => some 0.0
  | fuel + 1 =>
    if exponent.natAbs ≤ 308 then
      let power := Float.ofScientific 1 false exponent.natAbs
      if 0 ≤ exponent then
        let product := value * power
        if product.isInf then none else some product
      else some (value / power)
    else if value == 0.0 then some value
    else if 0 ≤ exponent then none
    else scaled (value / Float.ofScientific 1 false 308) (exponent + 308) fuel

def NumberToken.float? (token : NumberToken) : Option Float :=
  let (whole, dropped) := takeOnto 0 token.whole
  let (significand, unread) := takeOnto whole token.fraction
  let point : Int := (dropped : Int) - ((token.fraction.length - unread : Nat) : Int)
  match token.exponent with
  | none => scaled significand.toUInt64.toFloat point 8
  | some (negative, digits) =>
    let power := digits.foldl (fun value c => value * 10 + (c.toNat - '0'.toNat)) 0
    if exponentLimit < power then
      if significand ≠ 0 ∧ !negative then none else some 0.0
    else
      let exponent := if negative then point - power else point + power
      scaled significand.toUInt64.toFloat (max (-0x80000000) (min exponent exponentLimit)) 8

def decimalText (value : Decimal.Scientific) : String :=
  let digits := toString value.digits
  let point := (digits.length : Int) + value.exponent
  let zeros (n : Int) : String := String.ofList (List.replicate n.toNat '0')
  if 0 ≤ value.exponent ∧ point ≤ 16 then digits ++ zeros value.exponent ++ ".0"
  else if 0 < point ∧ point ≤ 16 then
    String.ofList (digits.toList.take point.toNat) ++ "." ++
      String.ofList (digits.toList.drop point.toNat)
  else if -5 < point ∧ point ≤ 0 then "0." ++ zeros (-point) ++ digits
  else
    let rest := String.ofList (digits.toList.drop 1)
    String.ofList (digits.toList.take 1) ++ (if rest = "" then "" else "." ++ rest) ++
      (if 0 < point then "e+" else "e") ++ toString (point - 1)

def floatText (negative : Bool) (value : Float) : String :=
  (if negative then "-" else "") ++
    if value == 0.0 then "0.0" else decimalText (Decimal.shortest value.toBits.toNat)

def NumberToken.integer? (token : NumberToken) : Option Int :=
  if token.isInteger then
    let n := token.whole.foldl (fun value c => value * 10 + (c.toNat - '0'.toNat)) 0
    if token.negative then (if n = 0 ∨ 0x8000000000000000 < n then none else some (-(n : Int)))
    else if n ≤ limit64 then some (n : Int)
    else none
  else none

def NumberToken.described (token : NumberToken) : Except Flaw String :=
  match token.integer? with
  | some n => .ok ("integer \x60" ++ toString n ++ "\x60")
  | none =>
    match token.float? with
    | none => .error .numberOutOfRange
    | some value => .ok ("floating point \x60" ++ floatText token.negative value ++ "\x60")

end TicketReports.Json
