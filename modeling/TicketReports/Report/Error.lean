set_option autoImplicit false

namespace TicketReports

inductive FileError where
  | missing
  | exists
  | notDirectory
  | isDirectory
  | nameTooLong
  | invalid
  | nul
  deriving DecidableEq, Repr

def FileError.message : FileError → String
  | .missing => "No such file or directory (os error 2)"
  | .exists => "File exists (os error 17)"
  | .notDirectory => "Not a directory (os error 20)"
  | .isDirectory => "Is a directory (os error 21)"
  | .nameTooLong => "File name too long (os error 36)"
  | .invalid => "Invalid argument (os error 22)"
  | .nul => "file name contained an unexpected NUL byte"

inductive WorkbookError where
  | textTooLong
  | tooManyRows
  | parameter (detail : String)
  | file (error : FileError)
  deriving DecidableEq, Repr

def WorkbookError.message : WorkbookError → String
  | .textTooLong => "String exceeds Excel's limit of 32,767 characters."
  | .tooManyRows => "Row or column exceeds Excel's allowed limits."
  | .parameter detail => "Parameter error: '" ++ detail ++ "'."
  | .file error => error.message

inductive ReportError where
  | folder (path reason : String)
  | workbook (error : WorkbookError)
  | cancelled
  deriving DecidableEq, Repr

def ReportError.message : ReportError → String
  | .folder path reason => "could not prepare " ++ path ++ ": " ++ reason
  | .workbook error => "could not write workbook: " ++ error.message
  | .cancelled => "report generation cancelled"

end TicketReports
