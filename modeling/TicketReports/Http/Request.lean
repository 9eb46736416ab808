import TicketReports.Text.Percent

set_option autoImplicit false

namespace TicketReports.Http

structure Payload where
  bytes : List UInt8 := []
  deriving DecidableEq, Repr

instance : Coe String Payload := ⟨fun text => { bytes := Text.bytesOf text }⟩

instance : Append Payload := ⟨fun first later => { bytes := first.bytes ++ later.bytes }⟩

structure Call where
  method : String
  -- Path and query as sent, perhaps behind a scheme and an authority.
  target : String
  contentType : Option String := none
  body : Payload := {}
  deriving DecidableEq, Repr

namespace Call

def isSchemeChar (c : Char) : Bool := c.isAlphanum || c == '+' || c == '-' || c == '.'

def pathAndQuery (target : List Char) : List Char :=
  match target.dropWhile isSchemeChar with
  | ':' :: '/' :: '/' :: rest =>
    match rest.dropWhile fun c => c != '/' && c != '?' with
    | '/' :: rest => '/' :: rest
    | rest => '/' :: rest
  | _ => target

def address (call : Call) : List Char := pathAndQuery (call.target.toList.takeWhile (· != '#'))

def path (call : Call) : String := String.ofList (call.address.takeWhile (· != '?'))

def query (call : Call) : String :=
  String.ofList ((call.address.dropWhile (· != '?')).drop 1)

end Call

end TicketReports.Http
