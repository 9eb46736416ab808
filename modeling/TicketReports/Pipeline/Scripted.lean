import TicketReports.Pipeline.Step

set_option autoImplicit false

namespace TicketReports

structure Script where
  gate : Option Step := none
  breakdown : Option (Step × String) := none
  failure : Option (Step × StepError) := none
  deriving DecidableEq, Repr

structure Scripted where
  script : Script := {}
  held : Option Script := none
  openings : Nat := 0
  deriving DecidableEq, Repr

def Step.cancelled : Step → StepError
  | .report _ => .report .cancelled
  | .mail _ => .mail .cancelled
  | step => .download (.access (step.download?.getD .channels) .cancelled)

namespace Script

def outcome (script : Script) (step : Step) : StepEnd :=
  match script.breakdown.filter fun entry => entry.1 == step with
  | some (_, detail) => .panicked detail
  | none =>
    match script.failure.filter fun entry => entry.1 == step with
    | some (_, error) => .failed error
    | none => .done

end Script

namespace Scripted

def release (w : Scripted) : Scripted := { w with openings := 1 }

def perform (step : Step) (left : Nat) (w : Scripted) : StepEnd × Nat × Scripted :=
  let script := w.held.getD w.script
  if script.gate = some step then
    if 0 < w.openings then
      (script.outcome step, left, { w with held := none, openings := w.openings - 1 })
    else if left = 0 then (.failed step.cancelled, left, { w with held := none })
    else (.waiting, left, { w with held := some script })
  else (script.outcome step, left, { w with held := none })

instance : Stages Scripted where
  perform := perform
  close := id

end Scripted

end TicketReports
