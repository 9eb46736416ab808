set_option autoImplicit false

namespace TicketReports.Text

-- The 25 code points with the Unicode property `White_Space`.
def isBlank (c : Char) : Bool :=
  let n := c.toNat
  (0x9 ≤ n && n ≤ 0xD) || n == 0x20 || n == 0x85 || n == 0xA0 || n == 0x1680 ||
    (0x2000 ≤ n && n ≤ 0x200A) || n == 0x2028 || n == 0x2029 || n == 0x202F ||
    n == 0x205F || n == 0x3000

def trimStart (text : List Char) : List Char := text.dropWhile isBlank

def trimEnd (text : List Char) : List Char := (text.reverse.dropWhile isBlank).reverse

def trimmed (text : List Char) : List Char := trimEnd (trimStart text)

def trim (text : String) : String := String.ofList (trimmed text.toList)

def allBlank (text : String) : Bool := text.toList.all isBlank

end TicketReports.Text
