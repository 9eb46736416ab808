import TicketReports.Service.Submission

set_option autoImplicit false

namespace TicketReports

structure Traffic (σ W : Type) where
  processor : Processor σ W
  submissions : List Submission := []

inductive Turn where
  | processor (event : Event)
  | arrive (kind : JobKind)
  | submission (index : Nat) (fresh : JobId) (now : Timestamp)
  | lookUp (id : JobId)
  | listPage (page : Page)

namespace Traffic

variable {σ W : Type} [JobStore σ] [Stages W]

def take (traffic : Traffic σ W) : Turn → Traffic σ W × List Note
  | .processor event =>
    let (processor, notes) := traffic.processor.step event
    ({ traffic with processor }, notes)
  | .arrive kind => ({ traffic with submissions := traffic.submissions ++ [.storing kind] }, [])
  | .submission index fresh now =>
    match traffic.submissions[index]? with
    | none => (traffic, [])
    | some submission =>
      let (submission, processor, notes) := submission.step fresh now traffic.processor
      ({ processor, submissions := traffic.submissions.set index submission }, notes)
  | .lookUp id =>
    let (_, store) := JobStore.get id traffic.processor.store
    ({ traffic with processor := { traffic.processor with store } }, [])
  | .listPage page =>
    let (_, store) := JobStore.list page traffic.processor.store
    ({ traffic with processor := { traffic.processor with store } }, [])

def takeAll (traffic : Traffic σ W) : List Turn → Traffic σ W × List Note
  | [] => (traffic, [])
  | turn :: turns =>
    let (traffic, notes) := traffic.take turn
    let (traffic, later) := traffic.takeAll turns
    (traffic, notes ++ later)

end Traffic

end TicketReports
