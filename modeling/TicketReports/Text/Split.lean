set_option autoImplicit false

namespace TicketReports.Text

def splitWhere {α : Type} (separates : α → Bool) : List α → List (List α)
  | [] => [[]]
  | c :: rest =>
    match splitWhere separates rest with
    | [] => [[c]]
    | part :: parts => if separates c then [] :: part :: parts else (c :: part) :: parts

def splitAll (separator : Char) : List Char → List (List Char) := splitWhere (· == separator)

end TicketReports.Text
