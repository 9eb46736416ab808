import TicketReports.Text.Hex
import TicketReports.Job.Error

set_option autoImplicit false

namespace TicketReports

structure JobId where
  bits : BitVec 128
  deriving DecidableEq, Repr

namespace JobId

def le (a b : JobId) : Bool := a.bits.toNat ≤ b.bits.toNat

def hyphens : List Nat := [8, 13, 18, 23]

def text (id : JobId) : String :=
  let digits := Text.hexDigits 32 id.bits.toNat
  String.ofList (digits.take 8 ++ '-' :: (digits.drop 8).take 4 ++ '-' :: (digits.drop 12).take 4 ++
    '-' :: (digits.drop 16).take 4 ++ '-' :: digits.drop 20)

def ofDigits (digits : List Char) : JobId := ⟨BitVec.ofNat 128 (Text.hexNumber digits)⟩

inductive Flaw where
  | length (found : Nat)
  | character (found : Char) (offset : Nat)
  | groupCount (found : Nat)
  | groupLength (group expected found : Nat)
  deriving DecidableEq, Repr

def Flaw.message : Flaw → String
  | .length found => "invalid length: found " ++ toString found
  | .character found offset =>
    "invalid character: found `" ++ String.ofList [found] ++ "` at " ++ toString offset
  | .groupCount found => "invalid group count: expected 5, found " ++ toString found
  | .groupLength group expected found =>
    "invalid group length in group " ++ toString group ++ ": expected " ++ toString expected ++
      ", found " ++ toString found

def byteLength (text : List Char) : Nat := text.foldl (fun total c => total + c.utf8Size) 0

def scan : Nat → List Char → Except (Char × Nat) (List Nat)
  | _, [] => .ok []
  | offset, c :: rest =>
    if c = '-' then (scan (offset + 1) rest).map (offset :: ·)
    else if Text.isHex c then scan (offset + 1) rest
    else .error (c, offset)

def wrongGroup (length : Nat) : Nat → List Nat → List Nat → List Nat → Flaw
  | group, position :: found, start :: starts, size :: sizes =>
    if position = start + size then wrongGroup length (group + 1) found starts sizes
    else .groupLength group size (position - start)
  | _, _, _, _ => .groupLength 4 12 (length - 24)

def flaw (length offset : Nat) (bare : Bool) (body : List Char) : Flaw :=
  match scan 0 body with
  | .error (c, position) => .character c (position + offset)
  | .ok found =>
    if found.isEmpty && bare then .length length
    else if found.length ≠ 4 then .groupCount (found.length + 1)
    else wrongGroup length 0 found [0, 9, 14, 19] [8, 4, 4, 4]

def readHyphenated (text : List Char) : Except Flaw JobId :=
  match scan 0 text with
  | .ok found =>
    if found = hyphens ∧ text.length = 36 then .ok (ofDigits (text.filter (· ≠ '-')))
    else .error (flaw (byteLength text) 0 false text)
  | .error _ => .error (flaw (byteLength text) 0 false text)

def urn : List Char := "urn:uuid:".toList

def afterUrn? (text : List Char) : Option (List Char) :=
  if (text.take 9).map Char.toLower = urn then some (text.drop 9) else none

def inBraces? (text : List Char) : Option (List Char) :=
  match text with
  | '\x7b' :: rest =>
    match rest.reverse with
    | '\x7d' :: inner => some inner.reverse
    | _ => none
  | _ => none

def readChars (text : List Char) : Except Flaw JobId :=
  let length := byteLength text
  if length = 0 ∨ 45 < length then .error (.length length)
  else if length = 32 ∧ text.all Text.isHex then .ok (ofDigits text)
  else if length = 36 then readHyphenated text
  else
    match inBraces? text, afterUrn? text with
    | some inner, _ =>
      if length = 38 then readHyphenated inner else .error (flaw length 1 false inner)
    | none, some inner =>
      if length = 45 then readHyphenated inner else .error (flaw length 9 false inner)
    | none, none => .error (flaw length 0 true text)

def read (text : String) : Except DomainError JobId :=
  (readChars text.toList).mapError fun flaw => .invalidId ("JobId: " ++ flaw.message)

end JobId

end TicketReports
