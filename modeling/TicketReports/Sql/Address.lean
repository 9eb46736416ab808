import TicketReports.Text.Numeral
import TicketReports.Text.Quoted
import TicketReports.Url.Reader

set_option autoImplicit false

namespace TicketReports.Sql

inductive AddressError where
  | url (flaw : Url.Flaw)
  | encoding (flaw : Text.Utf8.Flaw)
  | numeral (error : Text.NumeralError)
  | numericHost
  | security (value : String)
  deriving DecidableEq, Repr

namespace AddressError

def inSettings (reason : String) : String := "error with configuration: " ++ reason

def message : AddressError → String
  | .url flaw => inSettings flaw.message
  | .encoding flaw => inSettings flaw.message
  | .numeral error => inSettings error.message
  | .numericHost => inSettings "invalid IP address syntax"
  | .security value =>
    inSettings (inSettings ("unknown value " ++ Text.quoted value ++ " for \x60ssl_mode\x60"))

end AddressError

structure Address where
  host : String := "localhost"
  socket : Option String := none
  port : Nat := 5432
  user : Option String := none
  password : Option String := none
  database : Option String := none
  deriving DecidableEq, Repr

namespace Address

def decoded (part : String) : Except AddressError String :=
  (Text.Utf8.text (Text.percentDecode (Text.bytesOf part))).mapError .encoding

def decodedIfAny (part : String) : Except AddressError (Option String) :=
  if part = "" then .ok none else (decoded part).map some

def withHost (address : Address) (host : String) : Except AddressError Address :=
  match Text.percentDecode (Text.bytesOf host) with
  | 0x2F :: _ => (decoded host).map fun directory => { address with socket := some directory }
  | _ => .ok { address with host }

def numeral (limit : Nat) (text : String) : Except AddressError Nat :=
  (Text.readNumeral limit text.toList).mapError .numeral

def portLimit : Nat := UInt16.size - 1

def securities : List String :=
  ["disable", "allow", "prefer", "require", "verify-ca", "verify-full"]

def isNumeric (host : List Char) : Bool :=
  (Url.Ipv4.bytes? host).isSome || (Url.Ipv6.read? host).isSome

def withPair (address : Address) (pair : String × String) : Except AddressError Address :=
  let (name, value) := pair
  if name = "sslmode" ∨ name = "ssl-mode" then
    if securities.contains value.toLower then .ok address else .error (.security value)
  else if name = "statement-cache-capacity" then
    (numeral Text.limit64 value).map fun _ => address
  else if name = "host" then
    if value.startsWith "/" then .ok { address with socket := some value }
    else .ok { address with host := value }
  else if name = "hostaddr" then
    if isNumeric value.toList then .ok { address with host := value } else .error .numericHost
  else if name = "port" then
    (numeral portLimit value).map fun port => { address with port }
  else if name = "dbname" then .ok { address with database := some value }
  else if name = "user" then .ok { address with user := some value }
  else if name = "password" then .ok { address with password := some value }
  else .ok address

def bareHost (address : Address) : List Char :=
  let isBracket (c : Char) : Bool := c == '[' || c == ']'
  ((address.host.toList.dropWhile isBracket).reverse.dropWhile isBracket).reverse

def ofUrl (url : Url) : Except AddressError Address := do
  let address ← match url.host? with
    | some host => withHost {} host.text
    | none => .ok {}
  let authority := url.authority.getD {}
  let user ← decodedIfAny authority.username
  let password ← decodedIfAny (authority.password.getD "")
  let database ← decodedIfAny (String.ofList (url.path.toList.dropWhile (· == '/')))
  (Text.formPairs (url.query.getD "")).foldlM withPair
    { address with port := authority.port.getD address.port, user, password, database }

def read (text : String) : Except AddressError Address :=
  match Url.read text with
  | .ok url => ofUrl url
  | .error flaw => .error (.url flaw)

end Address

end TicketReports.Sql
