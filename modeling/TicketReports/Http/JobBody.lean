import TicketReports.Http.MediaType
import TicketReports.Http.Request
import TicketReports.Json.Number
import TicketReports.Json.Reader
import TicketReports.Text.Quoted

set_option autoImplicit false

namespace TicketReports.Http

inductive BodyError where
  | contentType
  | tooLong
  | malformed (place : Option String) (flaw : Json.Flaw)
  | unsuitable (place : Option String) (reason : String)
  deriving DecidableEq, Repr

namespace BodyError

def placed (place : Option String) (reason : String) : String :=
  match place with
  | some place => place ++ ": " ++ reason
  | none => reason

def message : BodyError → String
  | .contentType => "Expected request with \x60Content-Type: application/json\x60"
  | .tooLong => "Failed to buffer the request body: length limit exceeded"
  | .malformed place flaw =>
    "Failed to parse the request body as JSON: " ++ placed place flaw.message
  | .unsuitable place reason =>
    "Failed to deserialize the JSON body into the target type: " ++ placed place reason

end BodyError

namespace JobBody

open Json (Flaw skipBlanks)

def typeKey : String := "type"

def wholeName : String := "struct CreateJobRequest"

def described (text : List Char) : Except Flaw String :=
  match text with
  | 'n' :: rest => (Json.readWord ['u', 'l', 'l'] rest).map fun _ => "null"
  | 't' :: rest => (Json.readWord ['r', 'u', 'e'] rest).map fun _ => "boolean \x60true\x60"
  | 'f' :: rest => (Json.readWord ['a', 'l', 's', 'e'] rest).map fun _ => "boolean \x60false\x60"
  | '"' :: rest =>
    (Json.readString true {} rest).map fun (value, _) => "string " ++ Text.quoted (value.getD "")
  | '[' :: _ => .ok "sequence"
  | '\x7b' :: _ => .ok "map"
  | c :: rest =>
    if c = '-' ∨ c.isDigit then do
      let (token, _) ← Json.readNumber .eofValue (c :: rest)
      token.described
    else .error .expectedValue
  | [] => .error .expectedValue

def wrongKind {α : Type} (place : Option String) (expected : String)
    (text : List Char) : Except BodyError α :=
  match described text with
  | .error flaw => .error (.malformed place flaw)
  | .ok found => .error (.unsuitable place ("invalid type: " ++ found ++ ", expected " ++ expected))

def malformed {α : Type} (place : Option String) (result : Except Flaw α) : Except BodyError α :=
  result.mapError (BodyError.malformed place)

def readText (place : Option String) (text : List Char) : Except BodyError (String × List Char) :=
  match skipBlanks text with
  | [] => .error (.malformed place .eofValue)
  | '"' :: rest => do
    let (value, rest) ← malformed place (Json.readString true {} rest)
    .ok (value.getD "", rest)
  | text => wrongKind place "a string" text

def readKey (first : Bool) (text : List Char) : Except Flaw (Option (String × List Char)) :=
  let key (text : List Char) : Except Flaw (Option (String × List Char)) :=
    match text with
    | '"' :: rest =>
      (Json.readString true {} rest).map fun (name, rest) => some (name.getD "", rest)
    | '\x7d' :: _ => .error .trailingComma
    | [] => .error .eofValue
    | _ => .error .keyMustBeString
  match skipBlanks text with
  | [] => .error .eofObject
  | '\x7d' :: _ => .ok none
  | ',' :: rest => if first then .error .keyMustBeString else key (skipBlanks rest)
  | text => if first then key text else .error .expectedObjectEnd

def readColon (text : List Char) : Except Flaw (List Char) :=
  match skipBlanks text with
  | ':' :: rest => .ok rest
  | [] => .error .eofObject
  | _ => .error .expectedColon

def readMembers (found : Option String) (first : Bool) : Nat → List Char → Except BodyError String
  | 0, _ => .error (.malformed none .eofObject)
  | fuel + 1, text => do
    match ← malformed none (readKey first text) with
    | none =>
      match found with
      | some kind => .ok kind
      | none => .error (.unsuitable none "missing field \x60type\x60")
    | some (name, rest) =>
      if name = typeKey then
        if found.isSome then .error (.unsuitable none "duplicate field \x60type\x60")
        else do
          let rest ← malformed none (readColon rest)
          let (kind, rest) ← readText (some typeKey) rest
          readMembers (some kind) false fuel rest
      else do
        let rest ← malformed none (readColon rest)
        let (_, rest) ← malformed (some name) (Json.readFront rest)
        readMembers found false fuel rest

def readArrayEnd (text : List Char) : Except Flaw Unit :=
  match skipBlanks text with
  | ']' :: _ => .ok ()
  | ',' :: rest =>
    match skipBlanks rest with
    | ']' :: _ => .error .trailingComma
    | _ => .error .trailingCharacters
  | [] => .error .eofList
  | _ => .error .trailingCharacters

def readArray (text : List Char) : Except BodyError String :=
  match skipBlanks text with
  | [] => .error (.malformed none .eofList)
  | ']' :: _ =>
    .error (.unsuitable none ("invalid length 0, expected " ++ wholeName ++ " with 1 element"))
  | text => do
    let (kind, rest) ← readText (some "[0]") text
    let () ← malformed none (readArrayEnd rest)
    .ok kind

def readSymbols (text : List Char) : Except BodyError String :=
  match skipBlanks text with
  | [] => .error (.malformed none .eofValue)
  | '\x7b' :: rest => readMembers none true (rest.length + 1) rest
  | '[' :: rest => readArray rest
  | text => wrongKind none wholeName text

def lengthLimit : Nat := 2097152

def read (contentType : Option String) (body : Payload) : Except BodyError String :=
  if !announcesJson contentType then .error .contentType
  else if lengthLimit < body.bytes.length then .error .tooLong
  else readSymbols (Json.symbols body.bytes)

end JobBody

end TicketReports.Http
