/-!
Reading UTF-8. The bytes pass one by one through a small machine; a sequence that is broken off or
starts wrongly is given up as soon as that is certain, and the byte that broke it starts afresh.
-/

set_option autoImplicit false

namespace TicketReports.Text.Utf8

/-- A sequence that waits for more bytes: the code so far, how many bytes are missing, and the
bounds of the next one. -/
structure Pending where
  code : Nat
  missing : Nat
  low : Nat
  high : Nat
  deriving DecidableEq, Repr

def first (byte : Nat) : List (Option Char) × Option Pending :=
  if byte < 0x80 then ([some (Char.ofNat byte)], none)
  else if 0xC2 ≤ byte ∧ byte ≤ 0xDF then
    ([], some { code := byte - 0xC0, missing := 1, low := 0x80, high := 0xBF })
  else if 0xE0 ≤ byte ∧ byte ≤ 0xEF then
    ([], some
      { code := byte - 0xE0, missing := 2
        low := if byte = 0xE0 then 0xA0 else 0x80
        high := if byte = 0xED then 0x9F else 0xBF })
  else if 0xF0 ≤ byte ∧ byte ≤ 0xF4 then
    ([], some
      { code := byte - 0xF0, missing := 3
        low := if byte = 0xF0 then 0x90 else 0x80
        high := if byte = 0xF4 then 0x8F else 0xBF })
  else ([none], none)

def next (pending : Option Pending) (byte : Nat) : List (Option Char) × Option Pending :=
  match pending with
  | none => first byte
  | some p =>
    if p.low ≤ byte ∧ byte ≤ p.high then
      let code := p.code * 64 + (byte - 0x80)
      if p.missing ≤ 1 then ([some (Char.ofNat code)], none)
      else ([], some { code, missing := p.missing - 1, low := 0x80, high := 0xBF })
    else
      let (read, pending) := first byte
      (none :: read, pending)

def decodeFrom : Option Pending → List UInt8 → List (Option Char)
  | none, [] => []
  | some _, [] => [none]
  | pending, byte :: rest =>
    let (read, pending) := next pending byte.toNat
    read ++ decodeFrom pending rest

def decode (bytes : List UInt8) : List (Option Char) := decodeFrom none bytes

def read? (bytes : List UInt8) : Option (List Char) := (decode bytes).mapM id

def lossy (bytes : List UInt8) : String :=
  String.ofList ((decode bytes).map fun c => c.getD '\ufffd')

inductive Flaw where
  -- It starts at `index` and is given up after `length` bytes.
  | broken (index length : Nat)
  -- It starts at `index` and the bytes end within it.
  | unfinished (index : Nat)
  deriving DecidableEq, Repr

def Flaw.message : Flaw → String
  | .broken index length =>
    "invalid utf-8 sequence of " ++ toString length ++ " bytes from index " ++ toString index
  | .unfinished index => "incomplete utf-8 byte sequence from index " ++ toString index

def flawFrom? (start index : Nat) : Option Pending → List UInt8 → Option Flaw
  | none, [] => none
  | some _, [] => some (.unfinished start)
  | pending, byte :: rest =>
    match next pending byte.toNat with
    | (none :: _, _) => some (.broken start (max 1 (index - start)))
    | (_, none) => flawFrom? (index + 1) (index + 1) none rest
    | (_, pending) => flawFrom? start (index + 1) pending rest

def text (bytes : List UInt8) : Except Flaw String :=
  match flawFrom? 0 0 none bytes with
  | some flaw => .error flaw
  | none => .ok (lossy bytes)

end TicketReports.Text.Utf8
