import TicketReports.Json.Basic
import TicketReports.Json.Token
import TicketReports.Text.Percent

set_option autoImplicit false

namespace TicketReports.Json

mutual

def readValue : Nat → List Char → Except Flaw (Json × List Char)
  | 0, _ => .error .eofValue
  | fuel + 1, text =>
    match skipBlanks text with
    | [] => .error .eofValue
    | 'n' :: rest => (readWord ['u', 'l', 'l'] rest).map fun rest => (.null, rest)
    | 't' :: rest => (readWord ['r', 'u', 'e'] rest).map fun rest => (.bool true, rest)
    | 'f' :: rest => (readWord ['a', 'l', 's', 'e'] rest).map fun rest => (.bool false, rest)
    | '"' :: rest => (readString false {} rest).map fun (value, rest) => (.string value, rest)
    | '[' :: rest =>
      match skipBlanks rest with
      | ']' :: rest => .ok (.array [], rest)
      | [] => .error .eofList
      | rest => (readItems fuel rest).map fun (items, rest) => (.array items, rest)
    | '\x7b' :: rest =>
      match skipBlanks rest with
      | '\x7d' :: rest => .ok (.object [], rest)
      | rest => (readMembers fuel rest).map fun (members, rest) => (.object members, rest)
    | c :: rest =>
      if c = '-' ∨ c.isDigit then
        (readNumber .invalidNumber (c :: rest)).map fun (token, rest) =>
          (.number token.literal, rest)
      else .error .expectedValue

def readItems : Nat → List Char → Except Flaw (List Json × List Char)
  | 0, _ => .error .eofList
  | fuel + 1, text => do
    let (item, rest) ← readValue fuel text
    match skipBlanks rest with
    | ',' :: rest => (readItems fuel rest).map fun (items, rest) => (item :: items, rest)
    | ']' :: rest => .ok ([item], rest)
    | [] => .error .eofList
    | _ => .error .expectedListEnd

def readMembers : Nat → List Char → Except Flaw (List (Option String × Json) × List Char)
  | 0, _ => .error .eofObject
  | fuel + 1, text => do
    let (key, rest) ← match skipBlanks text with
      | '"' :: rest => readString false {} rest
      | [] => .error .eofObject
      | _ => .error .keyMustBeString
    let rest ← match skipBlanks rest with
      | ':' :: rest => .ok rest
      | [] => .error .eofObject
      | _ => .error .expectedColon
    let (value, rest) ← readValue fuel rest
    match skipBlanks rest with
    | ',' :: rest =>
      (readMembers fuel rest).map fun (members, rest) => ((key, value) :: members, rest)
    | '\x7d' :: rest => .ok ([(key, value)], rest)
    | [] => .error .eofObject
    | _ => .error .expectedObjectEnd

end

def readFront (text : List Char) : Except Flaw (Json × List Char) :=
  readValue (2 * text.length + 2) text

def read (text : List Char) : Except Flaw Json := do
  let (value, rest) ← readFront text
  if (skipBlanks rest).isEmpty then .ok value else .error .trailingCharacters

/-- The text in which each byte stands as the character of its code. -/
def symbols (bytes : List UInt8) : List Char := bytes.map fun byte => Char.ofNat byte.toNat

def ofBytes? (bytes : List UInt8) : Option Json := (read (symbols bytes)).toOption

def read? (text : String) : Option Json := ofBytes? (Text.bytesOf text)

end TicketReports.Json
