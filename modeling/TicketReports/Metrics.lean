set_option autoImplicit false

namespace TicketReports

structure Counters where
  failed : Nat := 0
  succeeded : Nat := 0
  rejected : Nat := 0
  deriving DecidableEq, Repr

namespace Counters

def countFailed (counters : Counters) : Counters := { counters with failed := counters.failed + 1 }

def countSucceeded (counters : Counters) : Counters :=
  { counters with succeeded := counters.succeeded + 1 }

def countRejected (counters : Counters) : Counters :=
  { counters with rejected := counters.rejected + 1 }

structure Sample where
  name : String
  help : String
  value : Nat
  deriving DecidableEq, Repr

def Sample.text (sample : Sample) : String :=
  "# HELP " ++ sample.name ++ " " ++ sample.help ++ "\n# TYPE " ++ sample.name ++ " counter\n" ++
    sample.name ++ " " ++ toString sample.value ++ "\n"

def samples (counters : Counters) : List Sample :=
  [{ name := "reporting_service_jobs_rejected"
     help := "The total number of report jobs rejected because the processor was busy"
     value := counters.rejected },
   { name := "reporting_service_jobs_succeeded"
     help := "The total number of report jobs finished successfully"
     value := counters.succeeded },
   { name := "reporting_service_processing_failed"
     help := "The total number of job processor failures"
     value := counters.failed }]

def render (counters : Counters) : String := String.join (counters.samples.map Sample.text)

def summary (counters : Counters) : String :=
  "Metrics \x7b processing_failed: " ++ toString counters.failed ++ ", jobs_succeeded: " ++
    toString counters.succeeded ++ ", jobs_rejected: " ++ toString counters.rejected ++ " \x7d"

end Counters

end TicketReports
