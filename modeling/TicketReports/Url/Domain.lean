import TicketReports.Text.Normal
import TicketReports.Text.Utf8
import TicketReports.Url.Domain.Direction
import TicketReports.Url.Domain.Joiner
import TicketReports.Url.Domain.Punycode
import TicketReports.Url.Domain.Refused
import TicketReports.Url.Domain.Replacement

set_option autoImplicit false

namespace TicketReports.Url.Domain

open Text

def isAscii (text : List Char) : Bool := text.all Punycode.isBasic

def replaced? (text : List Char) : Option (List Char) :=
  if isAscii text then some (text.map Char.toLower)
  else if text.any isRefused then none
  else some (Normal.text (text.flatMap replacement))

def announcement : List Char := "xn--".toList

-- Whether a label beyond ASCII can be one: it needs a character before its first mark.
def isSound (label : List Char) : Bool :=
  !label.head?.any isMark && joinersFit [] label

def encodedLimit : Nat := 2000

def decodedLimit : Nat := 1000

def decodedLabel? (text : List Char) : Option (List Char) := do
  let label ← if encodedLimit < text.length then none else Punycode.decode? text
  if !isAscii label && isSound label && replaced? label = some label then some label else none

def label? (label : List Char) : Option (List Char × List Char) :=
  if announcement.isPrefixOf label then
    (decodedLabel? (label.drop announcement.length)).map fun decoded => (decoded, label)
  else if isAscii label then some (label, label)
  else if isSound label ∧ label.length ≤ decodedLimit then
    some (label, announcement ++ Punycode.encode label)
  else none

def read? (bytes : List UInt8) : Option (List Char) := do
  let name ← replaced? (← Utf8.read? bytes)
  let labels ← (splitAll '.' name).mapM label?
  if name.any isForbidden || !runsWell (labels.map (·.1)) then none
  else some (List.intersperse ['.'] (labels.map (·.2))).flatten

end TicketReports.Url.Domain
