import TicketReports.Job.Kind
import TicketReports.Report.Folder
import TicketReports.Time.Timed

set_option autoImplicit false

namespace TicketReports.Report

def save (dir name : String) (workbook : Workbook) (folder : Folder) : Except ReportError Folder :=
  match workbook.flaw? with
  | some flaw => .error (.workbook flaw)
  | none =>
    match folder.write dir name (.workbook workbook) with
    | .error error => .error (.workbook (.file error))
    | .ok folder => .ok folder

def writeEach (dir : String) (snapshot : Snapshot) : List String → Timed ReportError Folder Unit
  | [], left, folder => (.ok (), left, folder)
  | _ :: _, 0, folder => (.error .cancelled, 0, folder)
  | email :: rest, left + 1, folder =>
    match save dir (engineerFile email) (engineerWorkbook snapshot email) folder with
    | .error error => (.error error, left, folder)
    | .ok folder => writeEach dir snapshot rest left folder

def writeEngineers (dir : String) (snapshot : Snapshot) : Timed ReportError Folder Unit :=
  fun left folder =>
    match folder.recreate dir with
    | (.error error, folder) => (.error (.folder dir error.message), left, folder)
    | (.ok (), folder) => writeEach dir snapshot snapshot.emails left folder

def writeDesk (dir : String) (snapshot : Snapshot) : Timed ReportError Folder Unit :=
  fun left folder =>
    match folder.ensure dir with
    | .error error => (.error (.folder dir error.message), left, folder)
    | .ok folder =>
      let channels := snapshot.channelIds.length
      if left < channels then (.error .cancelled, 0, folder)
      else
        match save dir serviceDeskFile (deskWorkbook snapshot) folder with
        | .error error => (.error error, left - channels, folder)
        | .ok folder => (.ok (), left - channels, folder)

def write (dir : String) (audience : Audience) (snapshot : Snapshot) :
    Timed ReportError Folder Unit :=
  match audience with
  | .fieldEngineers => writeEngineers dir snapshot
  | .serviceDesk => writeDesk dir snapshot

end TicketReports.Report
