import TicketReports.Access.Error
import TicketReports.Json.Basic
import TicketReports.Text.Utf8
import TicketReports.Time.Duration
import TicketReports.Time.Timed
import TicketReports.Url.Reader

set_option autoImplicit false

namespace TicketReports

structure Request where
  method : Method
  url : String
  headers : List (String × String)
  body : Option Json := none
  deriving Repr

structure Body where
  chunks : List (List UInt8)
  broken : Bool := false
  deriving DecidableEq, Repr

namespace Body

def bytes (body : Body) : List UInt8 := body.chunks.flatten

def whole? (body : Body) : Option (List UInt8) := if body.broken then none else some body.bytes

def drainLimit : Nat := 4096

def drainFrom : List UInt8 → List (List UInt8) → List UInt8
  | read, [] => read
  | read, chunk :: rest =>
    if read.length < drainLimit then drainFrom (read ++ chunk) rest else read

def drain (body : Body) : String := Text.Utf8.lossy ((drainFrom [] body.chunks).take drainLimit)

end Body

structure Reply where
  status : Nat
  body : Body
  deriving DecidableEq, Repr

structure Delivery where
  took : Nat
  reply : Option Reply
  deriving DecidableEq, Repr

/-- What calls are made through: a source of tokens and a way to send requests. -/
class Network (W : Type) where
  token : W → Except String String × W
  send : Request → W → Delivery × W

def isHeaderText (value : String) : Bool :=
  value.toList.all fun c => c == '\t' || (0x20 ≤ c.toNat && c.toNat != 0x7F)

namespace Url

def sendFailure (url : Url) : String := "error sending request for url (" ++ url.text ++ ")"

def useFailure (url : Url) : String := "builder error for url (" ++ url.text ++ ")"

-- The address without user and password, which are sent apart from it. They stay if the user is no
-- text, and so does a password alone that is no text.
def withoutCredentials (url : Url) : Url :=
  match url.authority with
  | none => url
  | some authority =>
    let password := authority.password.bind Text.pathPart?
    if (Text.pathPart? authority.username).isSome ∧ (authority.username ≠ "" ∨ password.isSome)
    then { url with authority := some { authority with username := "", password := none } }
    else url

def lengthLimit : Nat := 65534

def isUsable (url : Url) : Bool :=
  (url.scheme == "http" || url.scheme == "https") && url.text.utf8ByteSize ≤ lengthLimit &&
    !(url.host?.any fun host => host.text.toList.any fun c =>
      c == '"' || c == '\x60' || c == '\x7b' || c == '\x7d')

end Url

namespace Request

def address (request : Request) : Except String Url :=
  match Url.read request.url with
  | .error _ => .error "builder error"
  | .ok url =>
    if url.host? = none then .error url.useFailure
    else if !request.headers.all fun header => isHeaderText header.2 then .error "builder error"
    else
      let url := url.withoutCredentials
      if url.isUsable then .ok url else .error url.useFailure

variable {W : Type} [Network W]

/-- Sends a request once. The result is the reply, or why there is none; `none` if the time was up
while the request was out. -/
def attempt (timeout : Duration) (request : Request) (left : Nat) (w : W) :
    Option (Except String Reply) × Nat × W :=
  match request.address with
  | .error reason => (some (.error reason), left - 1, w)
  | .ok url =>
    let (delivery, w) := Network.send request w
    let took := min delivery.took timeout.nanos
    if left < took then (none, 0, w)
    else
      let result := match delivery.reply with
        | some reply => if delivery.took ≤ timeout.nanos then .ok reply else .error url.sendFailure
        | none => .error url.sendFailure
      (some result, left - (took + 1), w)

end Request

end TicketReports
