import TicketReports.Text.Hex

set_option autoImplicit false

namespace TicketReports.Url

def isRaw (c : Char) : Bool := c.toNat < 0x20 || 0x7F ≤ c.toNat

def isRawInFragment (c : Char) : Bool :=
  isRaw c || c == ' ' || c == '"' || c == '<' || c == '>' || c == '\x60'

def isRawInPath (c : Char) : Bool :=
  isRawInFragment c || c == '#' || c == '?' || c == '\x7b' || c == '\x7d'

def isRawInCredentials (c : Char) : Bool :=
  isRawInPath c || "/:;=@[\\]^|".toList.contains c

def isRawInQuery (special : Bool) (c : Char) : Bool :=
  isRaw c || c == ' ' || c == '"' || c == '#' || c == '<' || c == '>' || (special && c == '\'')

def escapeChar (c : Char) : List Char :=
  (String.ofList [c]).toUTF8.toList.flatMap fun byte =>
    '%' :: (Text.hexDigits 2 byte.toNat).map Char.toUpper

def escape (raw : Char → Bool) (text : List Char) : List Char :=
  text.flatMap fun c => if raw c then escapeChar c else [c]

end TicketReports.Url
