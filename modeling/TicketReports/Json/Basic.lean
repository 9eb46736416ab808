import TicketReports.Text.Numeral

/-!
JSON values, and records read from them.

A record stands either as an object, whose unknown members are skipped, or as an array of its
fields in order. A field is read from the place where it should stand, which may hold a value,
be absent, or lie past the end of the array.
-/

set_option autoImplicit false

namespace TicketReports

/-- A string that spells no text, by a lone surrogate or by bytes that are no UTF-8, is kept as
`none`: it may stand where nothing reads it. -/
inductive Json where
  | null
  | bool (value : Bool)
  | number (literal : String)
  | string (value : Option String)
  | array (items : List Json)
  | object (members : List (Option String × Json))
  deriving Repr, Inhabited

namespace Json

def ofText (text : String) : Json := .string (some text)

def ofInt (value : Int) : Json := .number (toString value)

def record (members : List (String × Json)) : Json :=
  .object (members.map fun (name, value) => (some name, value))

inductive Slot where
  | given (value : Json)
  | absent
  | pastEnd
  deriving Repr

def text? : Json → Option String
  | .string value => value
  | _ => none

def natOf? (digits : List Char) : Option Nat :=
  if digits.isEmpty then none
  else digits.foldlM (fun value c => (Text.digit? c).map (value * 10 + ·)) 0

def int? : Json → Option Int
  | .number literal =>
    match literal.toList with
    | ['-', '0'] => none
    | '-' :: digits => (natOf? digits).map fun n => -(n : Int)
    | digits => (natOf? digits).map fun n => (n : Int)
  | _ => none

def intWithin? (low high : Int) (value : Json) : Option Int :=
  value.int?.filter fun n => low ≤ n && n ≤ high

def int32? : Json → Option Int := intWithin? Int32.minValue.toInt Int32.maxValue.toInt

def int64? : Json → Option Int := intWithin? Int64.minValue.toInt Int64.maxValue.toInt

def list? {α : Type} (item : Json → Option α) : Json → Option (List α)
  | .array items => items.mapM item
  | _ => none

def memberSlot (members : List (Option String × Json)) (name : String) : Option Slot :=
  match members.filter fun member => member.1 == some name with
  | [] => some .absent
  | [member] => some (.given member.2)
  | _ => none

def arraySlots : List String → List Json → Option (List Slot)
  | [], [] => some []
  | [], _ :: _ => none
  | _ :: names, item :: items => (arraySlots names items).map (.given item :: ·)
  | _ :: names, [] => (arraySlots names []).map (.pastEnd :: ·)

def slots? (names : List String) : Json → Option (List Slot)
  | .object members =>
    if members.all fun member => member.1.isSome then names.mapM (memberSlot members) else none
  | .array items => arraySlots names items
  | _ => none

namespace Slot

def required {α : Type} (read : Json → Option α) : Slot → Option α
  | .given value => read value
  | _ => none

def nullable {α : Type} (read : Json → Option α) : Json → Option (Option α)
  | .null => some none
  | value => (read value).map some

-- May be null, or absent from an object.
def optional {α : Type} (read : Json → Option α) : Slot → Option (Option α)
  | .given value => nullable read value
  | .absent => some none
  | .pastEnd => none

-- May be null, absent, or cut off an array.
def lenient {α : Type} (read : Json → Option α) : Slot → Option (Option α)
  | .given value => nullable read value
  | _ => some none

-- May be absent or cut off, then standing for `default`; null is refused.
def defaulting {α : Type} (default : α) (read : Json → Option α) : Slot → Option α
  | .given value => read value
  | _ => some default

end Slot

def variant? {α : Type} (ofName? : String → Option α) : Json → Option α
  | .string (some name) => ofName? name
  | .object [(some name, .null)] => ofName? name
  | _ => none

end Json

end TicketReports
