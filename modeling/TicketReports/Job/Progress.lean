import TicketReports.Time.Timestamp

set_option autoImplicit false

namespace TicketReports

inductive Phase where
  | channelsDownload
  | usersDownload
  | ticketsDownload
  | workbookGeneration
  | mailSending
  deriving DecidableEq, Repr

namespace Phase

def all : List Phase :=
  [.channelsDownload, .usersDownload, .ticketsDownload, .workbookGeneration, .mailSending]

def name : Phase → String
  | .channelsDownload => "channels_download"
  | .usersDownload => "users_download"
  | .ticketsDownload => "tickets_download"
  | .workbookGeneration => "excel_files_generation"
  | .mailSending => "emails_sending"

def ofName? (text : String) : Option Phase := all.find? fun phase => phase.name == text

theorem mem_all (phase : Phase) : phase ∈ all := by cases phase <;> decide

@[simp] theorem ofName?_name (phase : Phase) : ofName? phase.name = some phase := by
  cases phase <;> decide

end Phase

structure Stamps where
  started : Option Timestamp := none
  finished : Option Timestamp := none
  deriving DecidableEq, Repr

structure Progress where
  channelsDownload : Stamps := {}
  usersDownload : Stamps := {}
  ticketsDownload : Stamps := {}
  workbookGeneration : Stamps := {}
  mailSending : Stamps := {}
  deriving DecidableEq, Repr

namespace Progress

def get (progress : Progress) : Phase → Stamps
  | .channelsDownload => progress.channelsDownload
  | .usersDownload => progress.usersDownload
  | .ticketsDownload => progress.ticketsDownload
  | .workbookGeneration => progress.workbookGeneration
  | .mailSending => progress.mailSending

def set (progress : Progress) (phase : Phase) (stamps : Stamps) : Progress :=
  match phase with
  | .channelsDownload => { progress with channelsDownload := stamps }
  | .usersDownload => { progress with usersDownload := stamps }
  | .ticketsDownload => { progress with ticketsDownload := stamps }
  | .workbookGeneration => { progress with workbookGeneration := stamps }
  | .mailSending => { progress with mailSending := stamps }

def tabulate (stamps : Phase → Stamps) : Progress :=
  { channelsDownload := stamps .channelsDownload
    usersDownload := stamps .usersDownload
    ticketsDownload := stamps .ticketsDownload
    workbookGeneration := stamps .workbookGeneration
    mailSending := stamps .mailSending }

@[simp] theorem get_set (progress : Progress) (phase other : Phase) (stamps : Stamps) :
    (progress.set phase stamps).get other =
      if other = phase then stamps else progress.get other := by
  cases phase <;> cases other <;> rfl

@[simp] theorem get_tabulate (stamps : Phase → Stamps) (phase : Phase) :
    (tabulate stamps).get phase = stamps phase := by
  cases phase <;> rfl

@[simp] theorem tabulate_get (progress : Progress) : tabulate progress.get = progress := rfl

theorem ext_get {a b : Progress} (same : ∀ phase, a.get phase = b.get phase) : a = b := by
  rw [← tabulate_get a, ← tabulate_get b, show a.get = b.get from funext same]

end Progress

end TicketReports
