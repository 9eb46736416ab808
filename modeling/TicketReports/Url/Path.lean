import TicketReports.Text.Split
import TicketReports.Url.Escape

set_option autoImplicit false

namespace TicketReports.Url.Path

def plainDots : List Char → List Char
  | '%' :: '2' :: 'e' :: rest => '.' :: plainDots rest
  | '%' :: '2' :: 'E' :: rest => '.' :: plainDots rest
  | c :: rest => c :: plainDots rest
  | [] => []

def isDrive : List Char → Bool
  | [letter, mark] => letter.isAlpha && (mark == ':' || mark == '|')
  | _ => false

def back : List (List Char) → List (List Char)
  | [] => []
  | last :: front => if isDrive last then last :: front else front

-- Adds a segment. In the path of a file a drive at the front gets its colon, and whatever follows
-- the colon is a segment by itself.
def add (file : Bool) (segment : List Char) (kept : List (List Char)) : List (List Char) :=
  match file && kept.isEmpty, segment with
  | true, [letter, mark] => if isDrive [letter, mark] then [[letter, ':']] else [segment]
  | true, letter :: mark :: rest =>
    if letter.isAlpha && mark == ':' then [rest, [letter, ':']] else [segment]
  | _, _ => segment :: kept

def settle (file : Bool) (kept : List (List Char)) : List (List Char) → List (List Char)
  | [] => kept.reverse
  | segment :: rest =>
    let dots := plainDots segment
    let after :=
      if dots = ['.', '.'] then back kept
      else if dots = ['.'] then kept
      else add file segment kept
    let isDots := dots = ['.', '.'] ∨ dots = ['.']
    match rest with
    | [] => (if isDots then [] :: after else after).reverse
    | _ => settle file after rest

def segments (isSlash : Char → Bool) (file : Bool) (path : List Char) : List (List Char) :=
  let settled := settle file [] ((Text.splitWhere isSlash path).map (escape isRawInPath))
  if file then settled.dropWhile List.isEmpty else settled

def text (segments : List (List Char)) : List Char :=
  '/' :: (List.intersperse ['/'] segments).flatten

end TicketReports.Url.Path
