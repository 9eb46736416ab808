import TicketReports.Processor.Basic

set_option autoImplicit false

namespace TicketReports

namespace Processor

variable {σ W : Type} [JobStore σ] [Stages W]

def drive (now : Timestamp) : Nat → Processor σ W → Processor σ W × List Note
  | 0, p => (p, [])
  | fuel + 1, p =>
    let (next, notes) := p.work true now
    if next.worker = p.worker then (next, notes)
    else
      let (last, later) := drive now fuel next
      (last, notes ++ later)

def enqueue (id : JobId) (p : Processor σ W) : Except AdmissionError Unit × Processor σ W :=
  let (entered, notes) := p.enter id
  if notes = [] ∧ entered.caller = some id then (.ok (), entered.leave.1)
  else (.error .busy, entered)

def launch (now : Timestamp) (fuel : Nat) (p : Processor σ W) :
    Except AdmissionError Unit × Processor σ W × List Note :=
  match p.start with
  | (p, []) => (.ok (), p.drive now fuel)
  | (p, notes) => (.error .alreadyStarted, p, notes)

def stop (now : Timestamp) (fuel : Nat) (p : Processor σ W) : Processor σ W × List Note :=
  let (p, notes) := p.shutdown.1.drive now fuel
  let (p, last) := p.close
  (p, notes ++ last)

end Processor

end TicketReports
