import TicketReports.Report.Place
import TicketReports.Report.Workbook

set_option autoImplicit false

namespace TicketReports

inductive File where
  | workbook (value : Workbook)
  | text (value : String)
  | directory
  deriving DecidableEq, Repr

inductive Folder where
  | missing
  | blocked
  | present (entries : List (String × File))
  deriving DecidableEq, Repr

namespace Folder

def entries : Folder → List (String × File)
  | .present entries => entries
  | _ => []

def made (dir : String) : Folder :=
  .present ((Report.detours dir).map fun name => (name, .directory))

def recreate (dir : String) (folder : Folder) : Except FileError Unit × Folder :=
  match Report.placeFlaw? dir, folder with
  | some flaw, _ => (.error flaw, folder)
  | none, .blocked => (.error .notDirectory, folder)
  | none, .missing =>
    if Report.endsInDot dir then (.error .missing, folder) else (.ok (), made dir)
  | none, .present _ =>
    if Report.endsInDot dir then (.error .invalid, .present []) else (.ok (), made dir)

def ensure (dir : String) (folder : Folder) : Except FileError Folder :=
  match Report.placeFlaw? dir, folder with
  | some flaw, _ => .error flaw
  | none, .blocked => .error .exists
  | none, .missing => if Report.endsInDot dir then .error .missing else .ok (made dir)
  | none, .present entries => .ok (.present entries)

def put (name : String) (file : File) (entries : List (String × File)) : List (String × File) :=
  entries.filter (fun entry => entry.1 != name) ++ [(name, file)]

def search (dir name : String) (folder : Folder) : Except FileError (List (String × File)) :=
  match Report.placeFlaw? dir, Report.pathFlaw? (Report.joinPath dir name), folder with
  | some flaw, _, _ => .error flaw
  | none, some flaw, _ => .error flaw
  | none, none, .missing => .error .missing
  | none, none, .blocked => .error .notDirectory
  | none, none, .present entries =>
    if Report.nameLimit < name.utf8ByteSize then .error .nameTooLong else .ok entries

def write (dir name : String) (file : File) (folder : Folder) : Except FileError Folder := do
  let entries ← folder.search dir name
  if entries.lookup name = some .directory then .error .isDirectory
  else .ok (.present (put name file entries))

def read (dir name : String) (folder : Folder) : Except FileError File := do
  match (← folder.search dir name).lookup name with
  | none => .error .missing
  | some .directory => .error .isDirectory
  | some file => .ok file

def remove (name : String) : Folder → Folder
  | .present entries => .present (entries.filter fun entry => entry.1 != name)
  | folder => folder

end Folder

end TicketReports
