import TicketReports.Text.Composition
import TicketReports.Text.Marks

/-!
The composed form of a text, which is the same for all spellings of its characters: characters are
taken apart, the marks on each are put into order and then joined with it where a composed
character exists.
-/

set_option autoImplicit false

namespace TicketReports.Text.Normal

def decomposed : Nat → Nat → List Nat
  | 0, code => [code]
  | depth + 1, code =>
    match parts? code with
    | some parts => parts.flatMap (decomposed depth)
    | none => [code]

def steps : Nat := 4

-- Adds a code to a text that is kept in reverse. A mark goes before the marks of a higher class.
def insert (code : Nat) : List Nat → List Nat
  | [] => [code]
  | last :: front =>
    if markClass code ≠ 0 ∧ markClass code < markClass last then last :: insert code front
    else code :: last :: front

def ordered (codes : List Nat) : List Nat :=
  (codes.foldl (fun text code => insert code text) []).reverse

-- Joins what follows with `start`. The marks in `between`, in reverse, could not be joined; they
-- are in the way of marks that are not of a higher class.
def composedFrom (start : Nat) (between : List Nat) : List Nat → List Nat
  | [] => start :: between.reverse
  | code :: rest =>
    let free := match between with
      | [] => true
      | last :: _ => markClass last < markClass code
    match if free then composition? start code else none with
    | some whole => composedFrom whole between rest
    | none =>
      if markClass code = 0 then start :: between.reverse ++ composedFrom code [] rest
      else composedFrom start (code :: between) rest

def composed : List Nat → List Nat
  | [] => []
  | code :: rest => composedFrom code [] rest

def text (text : List Char) : List Char :=
  (composed (ordered (text.flatMap fun c => decomposed steps c.toNat))).map Char.ofNat

end TicketReports.Text.Normal
