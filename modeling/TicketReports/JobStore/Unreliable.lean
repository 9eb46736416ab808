import TicketReports.JobStore.Basic

set_option autoImplicit false

namespace TicketReports

inductive StoreCall where
  | add
  | update
  | get
  | last
  | running
  | list
  deriving DecidableEq, Repr

namespace StoreCall

def all : List StoreCall := [.add, .update, .get, .last, .running, .list]

def name : StoreCall → String
  | .add => "add"
  | .update => "update"
  | .get => "get"
  | .last => "last"
  | .running => "running"
  | .list => "list"

def failure (call : StoreCall) : StoreError := .storage (call.name ++ " failed")

end StoreCall

structure Unreliable (σ : Type) where
  inner : σ
  calls : Nat := 0
  fails : Nat → StoreCall → Bool := fun _ _ => false

namespace Unreliable

variable {σ α : Type}

def perform (call : StoreCall) (run : σ → StoreAnswer σ α) (store : Unreliable σ) :
    StoreAnswer (Unreliable σ) α :=
  let counted := { store with calls := store.calls + 1 }
  if store.fails store.calls call then (.error call.failure, counted)
  else
    let (answer, inner) := run store.inner
    (answer, { counted with inner })

instance [JobStore σ] : JobStore (Unreliable σ) where
  add fresh job := perform .add (JobStore.add fresh job)
  update job := perform .update (JobStore.update job)
  get id := perform .get (JobStore.get id)
  last := perform .last JobStore.last
  running := perform .running JobStore.running
  list page := perform .list (JobStore.list page)

end Unreliable

end TicketReports
