set_option autoImplicit false

namespace TicketReports.Http

def isTokenChar (c : Char) : Bool :=
  c.isAlphanum || "!#$%&'*+-.^_\x60|~".toList.contains c

def isQuotable (c : Char) : Bool := 0x20 ≤ c.toNat && c.toNat < 0x7F

def quotedEnd? : List Char → Option (List Char)
  | [] => none
  | '"' :: rest =>
    match rest.dropWhile (· == ' ') with
    | [] => some []
    | ';' :: rest => some rest
    | _ => none
  | c :: rest => if isQuotable c then quotedEnd? rest else none

def quotedValue? : List Char → Option (List Char)
  | [] => none
  | c :: rest => if isQuotable c then quotedEnd? rest else none

def parametersOk : Nat → List Char → Bool
  | 0, _ => false
  | fuel + 1, text =>
    let text := text.dropWhile (· == ' ')
    let name := text.takeWhile isTokenChar
    if text.isEmpty then true
    else
      match text.drop name.length with
      | '=' :: '"' :: rest =>
        match quotedValue? rest with
        | some rest => !name.isEmpty && parametersOk fuel rest
        | none => false
      | '=' :: rest =>
        let value := rest.takeWhile isTokenChar
        match rest.drop value.length with
        | [] => !name.isEmpty
        | ';' :: rest => !name.isEmpty && !value.isEmpty && parametersOk fuel rest
        | _ => false
      | _ => false

def mediaType? (text : String) : Option (List Char × List Char) :=
  let chars := text.toList
  let type := chars.takeWhile fun c => isTokenChar c && c != '/'
  match chars.drop type.length with
  | '/' :: rest =>
    let subtype := rest.takeWhile isTokenChar
    let parameters := rest.drop subtype.length
    let wellFormed := match parameters with
      | [] => true
      | ';' :: rest => parametersOk (rest.length + 1) rest
      | _ => false
    if type.isEmpty || subtype.isEmpty || !wellFormed then none
    else some (type.map Char.toLower, subtype.map Char.toLower)
  | _ => none

def splitSuffix (subtype : List Char) : List Char × Option (List Char) :=
  let after := (subtype.reverse.takeWhile (· != '+')).reverse
  let before := subtype.take (subtype.length - after.length - 1)
  if after.length = subtype.length ∨ before.isEmpty then (subtype, none) else (before, some after)

def announcesJson (contentType : Option String) : Bool :=
  match contentType.bind mediaType? with
  | none => false
  | some (type, subtype) =>
    let (base, suffix) := splitSuffix subtype
    type == "application".toList && (base == "json".toList || suffix == some "json".toList)

end TicketReports.Http
