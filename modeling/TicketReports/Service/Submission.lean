import TicketReports.Processor.Basic

/-!
Submitting a job: it is stored, offered to the worker and, if the worker is busy, counted and
closed as refused. Each call to the store and each use of the processor's state is one step, so
that submissions can be interleaved with one another and with the worker.
-/

set_option autoImplicit false

namespace TicketReports

inductive Verdict where
  | created (id : JobId)
  | refused (id : JobId) (error : AdmissionError)
  | failed (error : StoreError)
  deriving DecidableEq, Repr

inductive Submission where
  | storing (kind : JobKind)
  | offering (id : JobId)
  | offered (id : JobId)
  | loading (id : JobId) (error : AdmissionError)
  | saving (id : JobId) (error : AdmissionError) (job : Job)
  | ended (verdict : Verdict)
  deriving DecidableEq, Repr

namespace Submission

variable {σ W : Type} [JobStore σ]

def offer (id : JobId) (p : Processor σ W) : Submission × Processor σ W × List Note :=
  if !p.free then (.offering id, p, [])
  else
    match p.enter id with
    | (p, []) => (.offered id, p, [])
    | (p, notes) => (.loading id .busy, { p with counters := p.counters.countRejected }, notes)

def load (id : JobId) (error : AdmissionError) (p : Processor σ W) : Submission × Processor σ W :=
  match JobStore.get id p.store with
  | (.error _, store) => (.ended (.refused id error), { p with store })
  | (.ok job, store) =>
    match job.finish (.error error.message) with
    | .error _ => (.ended (.refused id error), { p with store })
    | .ok job => (.saving id error job, { p with store })

-- `fresh` is the id of a job that is stored.
def step (fresh : JobId) (now : Timestamp) (submission : Submission) (p : Processor σ W) :
    Submission × Processor σ W × List Note :=
  match submission with
  | .storing kind =>
    match JobStore.create fresh now kind p.store with
    | (.error error, store) => (.ended (.failed error), { p with store }, [])
    | (.ok id, store) => (.offering id, { p with store }, [])
  | .offering id => offer id p
  | .offered id =>
    let (p, notes) := p.leave
    (.ended (.created id), p, notes)
  | .loading id error =>
    let (submission, p) := load id error p
    (submission, p, [])
  | .saving id error job =>
    (.ended (.refused id error), { p with store := (JobStore.update job p.store).2 }, [])
  | .ended verdict => (.ended verdict, p, [])

def stepCount : Nat := 4

def run (fresh : JobId) (now : Timestamp) : Nat → Submission → Processor σ W →
    Submission × Processor σ W × List Note
  | 0, submission, p => (submission, p, [])
  | fuel + 1, submission, p =>
    let (submission, p, notes) := submission.step fresh now p
    let (submission, p, later) := run fresh now fuel submission p
    (submission, p, notes ++ later)

end Submission

end TicketReports
