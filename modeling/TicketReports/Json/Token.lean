import TicketReports.Json.Flaw
import TicketReports.Text.Hex
import TicketReports.Text.Utf8

set_option autoImplicit false

namespace TicketReports.Json

def skipBlanks (text : List Char) : List Char :=
  text.dropWhile fun c => c == ' ' || c == '\n' || c == '\t' || c == '\r'

def readWord : List Char → List Char → Except Flaw (List Char)
  | [], rest => .ok rest
  | _ :: _, [] => .error .eofValue
  | letter :: letters, c :: rest =>
    if c = letter then readWord letters rest else .error .expectedIdent

structure NumberToken where
  negative : Bool
  whole : List Char
  fraction : List Char := []
  exponent : Option (Bool × List Char) := none
  deriving DecidableEq, Repr

def NumberToken.isInteger (token : NumberToken) : Bool :=
  token.fraction.isEmpty && token.exponent.isNone

def NumberToken.literal (token : NumberToken) : String :=
  let sign := if token.negative then ['-'] else []
  let fraction := if token.fraction.isEmpty then [] else '.' :: token.fraction
  let exponent := match token.exponent with
    | none => []
    | some (negative, digits) => 'e' :: (if negative then ['-'] else []) ++ digits
  String.ofList (sign ++ token.whole ++ fraction ++ exponent)

def readSomeDigits (atEnd : Flaw) (text : List Char) : Except Flaw (List Char × List Char) :=
  match text with
  | [] => .error atEnd
  | c :: _ =>
    if c.isDigit then .ok (text.takeWhile Char.isDigit, text.dropWhile Char.isDigit)
    else .error .invalidNumber

def readWhole (atEnd : Flaw) : List Char → Except Flaw (List Char × List Char)
  | '0' :: c :: rest => if c.isDigit then .error .invalidNumber else .ok (['0'], c :: rest)
  | text => readSomeDigits atEnd text

def readFraction (atEnd : Flaw) : List Char → Except Flaw (List Char × List Char)
  | '.' :: rest => readSomeDigits atEnd rest
  | text => .ok ([], text)

def readExponent (atEnd : Flaw) : List Char → Except Flaw (Option (Bool × List Char) × List Char)
  | c :: rest =>
    if c = 'e' ∨ c = 'E' then do
      let (negative, rest) := match rest with
        | '+' :: after => (false, after)
        | '-' :: after => (true, after)
        | _ => (false, rest)
      let (digits, rest) ← readSomeDigits atEnd rest
      .ok (some (negative, digits), rest)
    else .ok (none, c :: rest)
  | [] => .ok (none, [])

def readNumber (atEnd : Flaw) (text : List Char) : Except Flaw (NumberToken × List Char) := do
  let (negative, text) := match text with
    | '-' :: rest => (true, rest)
    | _ => (false, text)
  let (whole, text) ← readWhole atEnd text
  let (fraction, text) ← readFraction atEnd text
  let (exponent, text) ← readExponent atEnd text
  .ok ({ negative, whole, fraction, exponent }, text)

def escaped? : Char → Option Char
  | '"' => some '"'
  | '\\' => some '\\'
  | '/' => some '/'
  | 'b' => some '\x08'
  | 'f' => some '\x0c'
  | 'n' => some '\n'
  | 'r' => some '\r'
  | 't' => some '\t'
  | _ => none

def unit? (a b c d : Char) : Option Nat := do
  let a ← Text.hexValue? a
  let b ← Text.hexValue? b
  let c ← Text.hexValue? c
  let d ← Text.hexValue? d
  some (((a * 16 + b) * 16 + c) * 16 + d)

def isHigh (unit : Nat) : Bool := 0xD800 ≤ unit && unit ≤ 0xDBFF

def isLow (unit : Nat) : Bool := 0xDC00 ≤ unit && unit ≤ 0xDFFF

def paired (high low : Nat) : Char :=
  Char.ofNat (0x10000 + (high - 0xD800) * 0x400 + (low - 0xDC00))

/-- What has been read of a string: its bytes in reverse, a high surrogate that waits for its
partner, and whether some surrogate stayed without one. -/
structure Spelling where
  read : List UInt8 := []
  high : Option Nat := none
  garbled : Bool := false
  deriving DecidableEq, Repr

namespace Spelling

def settled (spelling : Spelling) : Spelling :=
  { spelling with high := none, garbled := spelling.garbled || spelling.high.isSome }

def push (spelling : Spelling) (byte : Char) : Spelling :=
  { spelling.settled with read := UInt8.ofNat byte.toNat :: spelling.read }

def pushChar (spelling : Spelling) (c : Char) : Spelling :=
  { spelling.settled with read := (String.utf8EncodeChar c).reverse ++ spelling.read }

def text? (spelling : Spelling) : Option String :=
  if spelling.settled.garbled then none
  else (Text.Utf8.read? spelling.read.reverse).map String.ofList

def pushUnit (spelling : Spelling) (unit : Nat) : Spelling :=
  match spelling.high with
  | some high =>
    if isLow unit then { spelling with high := none }.pushChar (paired high unit)
    else if isHigh unit then { spelling.settled with high := some unit }
    else spelling.pushChar (Char.ofNat unit)
  | none =>
    if isLow unit then { spelling with garbled := true }
    else if isHigh unit then { spelling with high := some unit }
    else spelling.pushChar (Char.ofNat unit)

def unitFlaw? (spelling : Spelling) (unit : Nat) : Option Flaw :=
  if isLow unit then (if spelling.high.isNone then some .loneSurrogate else none)
  else if spelling.high.isSome then some .loneSurrogate else none

def restFlaw? (spelling : Spelling) : Option Flaw :=
  if spelling.high.isSome then some .unpairedSurrogate else none

def endFlaw? (spelling : Spelling) : Option Flaw :=
  spelling.restFlaw?.or (if spelling.text?.isNone then some .invalidUnicode else none)

end Spelling

def stop? (exact : Bool) (flaw : Option Flaw) : Option Flaw := if exact then flaw else none

-- Without `exact` a string that spells no text is read to its end.
def readString (exact : Bool) : Spelling → List Char → Except Flaw (Option String × List Char)
  | _, [] => .error .eofString
  | spelling, '"' :: rest =>
    match stop? exact spelling.endFlaw? with
    | some flaw => .error flaw
    | none => .ok (spelling.text?, rest)
  | spelling, '\\' :: 'u' :: a :: b :: c :: d :: rest =>
    match unit? a b c d with
    | none => .error .invalidEscape
    | some unit =>
      match stop? exact (spelling.unitFlaw? unit) with
      | some flaw => .error flaw
      | none => readString exact (spelling.pushUnit unit) rest
  | _, '\\' :: 'u' :: _ => .error .eofString
  | _, ['\\'] => .error .eofString
  | spelling, '\\' :: c :: rest =>
    match stop? exact spelling.restFlaw?, escaped? c with
    | some flaw, _ => .error flaw
    | none, none => .error .invalidEscape
    | none, some meant => readString exact (spelling.pushChar meant) rest
  | spelling, c :: rest =>
    match stop? exact spelling.restFlaw? with
    | some flaw => .error flaw
    | none =>
      if c.toNat < 0x20 then .error .controlCharacter else readString exact (spelling.push c) rest

end TicketReports.Json
