/-!
Labels beyond ASCII in the letters of ASCII: the ASCII characters of a label, then where each of the
others goes, as distances in digits of base 36 whose places adapt to the distances before.
-/

set_option autoImplicit false

namespace TicketReports.Url.Domain.Punycode

def digitChar (value : Nat) : Char :=
  if value < 26 then Char.ofNat ('a'.toNat + value) else Char.ofNat ('0'.toNat + (value - 26))

def digit? (c : Char) : Option Nat :=
  if c.isAlpha then some (c.toLower.toNat - 'a'.toNat)
  else if c.isDigit then some (c.toNat - '0'.toNat + 26)
  else none

def threshold (place bias : Nat) : Nat := min 26 (max 1 (place - bias))

def shrink (delta place : Nat) : Nat × Nat :=
  if 455 < delta then shrink (delta / 35) (place + 36) else (delta, place)
termination_by delta
decreasing_by omega

def adapt (delta count : Nat) (first : Bool) : Nat :=
  let delta := if first then delta / 700 else delta / 2
  let (delta, place) := shrink (delta + delta / count) 0
  place + 36 * delta / (delta + 38)

theorem threshold_pos (place bias : Nat) : 0 < threshold place bias := by
  unfold threshold
  omega

def digits (bias place delta : Nat) : List Char :=
  let limit := threshold place bias
  if delta < limit then [digitChar delta]
  else
    digitChar (limit + (delta - limit) % (36 - limit)) ::
      digits bias (place + 36) ((delta - limit) / (36 - limit))
termination_by delta
decreasing_by
  have positive := threshold_pos place bias
  exact Nat.lt_of_le_of_lt (Nat.div_le_self _ _) (by omega)

structure Writer where
  text : List Char := []
  delta : Nat := 0
  bias : Nat := 72
  count : Nat
  deriving DecidableEq, Repr

def Writer.pass (basic code : Nat) (writer : Writer) (c : Char) : Writer :=
  if c.toNat < code then { writer with delta := writer.delta + 1 }
  else if c.toNat = code then
    { text := writer.text ++ digits writer.bias 36 writer.delta
      delta := 0
      bias := adapt writer.delta (writer.count + 1) (writer.count = basic)
      count := writer.count + 1 }
  else writer

def placeAll (label : List Char) (basic : Nat) (writer : Writer) (next : Nat) :
    List Nat → Writer
  | [] => writer
  | code :: codes =>
    let delta := writer.delta + (code - next) * (writer.count + 1)
    let writer := label.foldl (Writer.pass basic code) { writer with delta }
    placeAll label basic { writer with delta := writer.delta + 1 } (code + 1) codes

def isBasic (c : Char) : Bool := c.toNat < 0x80

def encode (label : List Char) : List Char :=
  let basic := label.filter isBasic
  let codes := ((label.filter fun c => !isBasic c).map Char.toNat).mergeSort.eraseDups
  (if basic.isEmpty then [] else basic ++ ['-']) ++
    (placeAll label basic.length { count := basic.length } 0x80 codes).text

def readDelta? (bias place weight value : Nat) :
    (text : List Char) → Option (Nat × { rest : List Char // rest.length < text.length })
  | [] => none
  | c :: rest =>
    match digit? c with
    | none => none
    | some digit =>
      let limit := threshold place bias
      let value := value + digit * weight
      if digit < limit then some (value, ⟨rest, Nat.lt_succ_self _⟩)
      else
        match readDelta? bias (place + 36) (weight * (36 - limit)) value rest with
        | none => none
        | some (value, ⟨after, shorter⟩) => some (value, ⟨after, Nat.lt_succ_of_lt shorter⟩)

def readAll? (label : List Char) (code position bias : Nat) (text : List Char) :
    Option (List Char) :=
  if text.isEmpty then some label
  else
    match readDelta? bias 36 1 position text with
    | none => none
    | some (value, ⟨rest, _⟩) =>
      let count := label.length + 1
      let code := code + value / count
      if code.isValidChar then
        readAll? (label.insertIdx (value % count) (Char.ofNat code)) code (value % count + 1)
          (adapt (value - position) count (position = 0)) rest
      else none
termination_by text.length

def decode? (text : List Char) : Option (List Char) :=
  let tail := (text.reverse.takeWhile (· != '-')).reverse
  let basic := text.take (text.length - tail.length)
  if text.all isBasic ∧ basic ≠ ['-'] then readAll? basic.dropLast 0x80 0 72 tail else none

end TicketReports.Url.Domain.Punycode
