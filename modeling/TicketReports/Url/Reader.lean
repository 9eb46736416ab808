import TicketReports.Url.Basic
import TicketReports.Url.Path

/-!
Reading addresses.

A special scheme is one whose hosts are on the internet, or that of files. Below it a backslash
counts as a slash, and the slashes before the host may be too few or too many.
-/

set_option autoImplicit false

namespace TicketReports.Url

def scheme? (text : List Char) : Option (String × List Char) :=
  match text with
  | c :: _ =>
    let name := text.takeWhile fun c => c.isAlphanum || c == '+' || c == '-' || c == '.'
    match text.drop name.length with
    | ':' :: rest =>
      if c.isAlpha then some (String.ofList (name.map Char.toLower), rest) else none
    | _ => none
  | [] => none

def internetPorts : List (String × Nat) :=
  [("http", 80), ("https", 443), ("ws", 80), ("wss", 443), ("ftp", 21)]

def isSlash (special : Bool) (c : Char) : Bool := c == '/' || (special && c == '\\')

def endsAuthority (special : Bool) (c : Char) : Bool := isSlash special c || c == '?' || c == '#'

def splitCredentials (text : List Char) : Option (List Char) × List Char :=
  let host := (text.reverse.takeWhile (· != '@')).reverse
  if host.length = text.length then (none, text)
  else (some (text.take (text.length - host.length - 1)), host)

def readCredentials (text : List Char) : String × Option String :=
  let escaped (text : List Char) : String := String.ofList (escape isRawInCredentials text)
  let username := text.takeWhile (· != ':')
  match text.drop (username.length + 1) with
  | [] => (escaped username, none)
  | password => (escaped username, some (escaped password))

def splitPort (inside : Bool) : List Char → List Char × List Char
  | [] => ([], [])
  | c :: rest =>
    if c = ':' ∧ !inside then ([], c :: rest)
    else
      let (host, port) := splitPort (c = '[' || (inside && c != ']')) rest
      (c :: host, port)

def readPort (usual : Option Nat) (text : List Char) : Except Flaw (Option Nat × List Char) :=
  let digits := text.takeWhile Char.isDigit
  let rest := text.drop digits.length
  let port := (Ipv4.number? 10 digits).getD 0
  if 0xFFFF < port ∨ rest.head?.any (· ≠ '\\') then .error .port
  else .ok (if digits.isEmpty ∨ some port = usual then none else some port, rest)

def readHost (usual : Option Nat) (text : List Char) :
    Except Flaw (Host × Option Nat × List Char) := do
  let (name, rest) := splitPort false text
  if name.isEmpty && (usual.isSome || !rest.isEmpty) then .error .emptyHost
  else
    let host ← if usual.isSome then Host.readInternet name else Host.readPlain name
    match rest with
    | [] => .ok (host, none, [])
    | _ :: rest =>
      let (port, rest) ← readPort usual rest
      .ok (host, port, rest)

def readAuthority (usual : Option Nat) (text : List Char) :
    Except Flaw (Authority × List Char) := do
  let whole := text.takeWhile fun c => !endsAuthority usual.isSome c
  let rest := text.drop whole.length
  let (credentials, place) := splitCredentials whole
  if credentials = some [] ∧ place.isEmpty ∧ !rest.isEmpty then .error .emptyHost
  else
    let (username, password) := readCredentials (credentials.getD [])
    let (host, port, after) ← readHost usual place
    if host = .absent ∧ (username ≠ "" ∨ password.isSome) then .error .emptyHost
    else .ok ({ username, password, host, port }, after ++ rest)

def readTail (special : Bool) (write : List Char → List Char) (text : List Char) :
    String × Option String × Option String :=
  let path := text.takeWhile fun c => c != '?' && c != '#'
  let (query, fragment) : Option (List Char) × Option (List Char) :=
    match text.drop path.length with
    | '?' :: rest =>
      let query := rest.takeWhile (· != '#')
      (some query, (rest.drop query.length).tail?)
    | rest => (none, rest.tail?)
  let part (raw : Char → Bool) (text : List Char) : String := String.ofList (escape raw text)
  (String.ofList (write path), query.map (part (isRawInQuery special)),
    fragment.map (part isRawInFragment))

def dropSlash (special : Bool) (path : List Char) : List Char :=
  match path with
  | c :: rest => if isSlash special c then rest else path
  | [] => []

def segmentsOf (special file : Bool) (path : List Char) : List (List Char) :=
  Path.segments (isSlash special) file (dropSlash special path)

def writePath (special : Bool) (path : List Char) : List Char :=
  if path.isEmpty && !special then [] else Path.text (segmentsOf special false path)

def readInternet (scheme : String) (port : Nat) (text : List Char) : Except Flaw Url := do
  let (authority, rest) ← readAuthority (some port) (text.dropWhile (isSlash true))
  let (path, query, fragment) := readTail true (writePath true) rest
  .ok { scheme, authority := some authority, path, query, fragment }

def readPlain (scheme : String) (text : List Char) : Except Flaw Url := do
  match text with
  | '/' :: '/' :: rest =>
    let (authority, rest) ← readAuthority none rest
    let (path, query, fragment) := readTail false (writePath false) rest
    .ok { scheme, authority := some authority, path, query, fragment }
  | '/' :: _ =>
    let (path, query, fragment) := readTail false (writePath false) text
    .ok { scheme, authority := none, path, query, fragment }
  | _ =>
    let (path, query, fragment) := readTail false (escape isRaw) text
    .ok { scheme, authority := none, path, query, fragment }

def readFileHost (name : List Char) : Except Flaw Host :=
  if name.isEmpty then .ok .absent
  else
    (Host.readInternet name).map fun host =>
      if host = .name "localhost" then .absent else host

def readFile (text : List Char) : Except Flaw Url := do
  let slashes := (text.take 2).takeWhile (isSlash true)
  let name :=
    if slashes.length = 2 then (text.drop 2).takeWhile fun c => !endsAuthority true c else []
  let named := slashes.length = 2 ∧ !Path.isDrive name
  let host ← if named then readFileHost name else .ok .absent
  let rest := text.drop (slashes.length + if named then name.length else 0)
  let segments := segmentsOf true true
  let rest := if named then rest else '/' :: rest
  let (path, query, fragment) := readTail true (fun path => Path.text (segments path)) rest
  let drive := (segments (rest.takeWhile fun c => c != '?' && c != '#')).head?.any Path.isDrive
  .ok
    { scheme := "file", authority := some { host := if drive then .absent else host }
      path, query, fragment }

def cleaned (address : String) : List Char :=
  let isEdge (c : Char) : Bool := c.toNat ≤ 0x20
  let trimmed := ((address.toList.dropWhile isEdge).reverse.dropWhile isEdge).reverse
  trimmed.filter fun c => c != '\t' && c != '\n' && c != '\r'

def read (address : String) : Except Flaw Url :=
  match scheme? (cleaned address) with
  | none => .error .relative
  | some (scheme, rest) =>
    if scheme = "file" then readFile rest
    else
      match internetPorts.lookup scheme with
      | some port => readInternet scheme port rest
      | none => readPlain scheme rest

end TicketReports.Url
