set_option autoImplicit false

namespace TicketReports.Html

def escapeChar (c : Char) : List Char :=
  if c = '&' then "&amp;".toList
  else if c = '<' then "&lt;".toList
  else if c = '>' then "&gt;".toList
  else if c = '"' then "&quot;".toList
  else [c]

def escape (text : String) : List Char := text.toList.flatMap escapeChar

def element (tag : String) (content : List Char) : List Char :=
  ("<" ++ tag ++ ">").toList ++ content ++ ("</" ++ tag ++ ">").toList

def row (tag : String) (cells : List String) : List Char :=
  element "tr" (cells.flatMap fun cell => element tag (escape cell))

def body (caption : String) (header : List String) (rows : List (List String)) : String :=
  String.ofList
    (element "b" (escape caption) ++ "<br><br><table border=\"1\">".toList ++ row "th" header ++
      rows.flatMap (row "td") ++ "</table>".toList)

end TicketReports.Html
