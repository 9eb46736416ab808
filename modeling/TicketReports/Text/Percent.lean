import TicketReports.Text.Hex
import TicketReports.Text.Split
import TicketReports.Text.Utf8

set_option autoImplicit false

namespace TicketReports.Text

def hexPair? (high low : UInt8) : Option UInt8 := do
  let high ← hexValue? (Char.ofNat high.toNat)
  let low ← hexValue? (Char.ofNat low.toNat)
  some (UInt8.ofNat (high * 16 + low))

def percentDecode : List UInt8 → List UInt8
  | 0x25 :: high :: low :: rest =>
    match hexPair? high low with
    | some byte => byte :: percentDecode rest
    | none => 0x25 :: percentDecode (high :: low :: rest)
  | byte :: rest => byte :: percentDecode rest
  | [] => []

def bytesOf (text : String) : List UInt8 := text.toUTF8.toList

def pathPart? (text : String) : Option String :=
  (Utf8.read? (percentDecode (bytesOf text))).map String.ofList

def formPart (text : List Char) : String :=
  let spaced := text.map fun c => if c = '+' then ' ' else c
  Utf8.lossy (percentDecode (bytesOf (String.ofList spaced)))

def formPairs (text : String) : List (String × String) :=
  ((splitAll '&' text.toList).filter (!·.isEmpty)).map fun pair =>
    let name := pair.takeWhile (· != '=')
    (formPart name, formPart (pair.drop (name.length + 1)))

end TicketReports.Text
