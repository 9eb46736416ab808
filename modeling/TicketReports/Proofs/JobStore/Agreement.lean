import TicketReports.JobStore.Archive
import TicketReports.Proofs.JobStore.Eviction
import TicketReports.Proofs.JobStore.Succession

set_option autoImplicit false

namespace TicketReports

/-- `rows` is what the server's table holds, in no order of note: each statement is executed as if
the rows lay in some order, and leaves them in any. -/
structure Sql.Standard {S : Type} [Server S] (rows : S → List Row) : Prop where
  execute (query : Query) (server : S) : ∃ held : List Row, held.Perm (rows server) ∧
    (Server.execute query server).1 = (Table.execute query ⟨held⟩).1 ∧
    (rows (Server.execute query server).2).Perm (Table.execute query ⟨held⟩).2.rows

theorem Sql.Table.standard : Standard Table.rows :=
  ⟨fun _ table => ⟨table.rows, .refl _, rfl, .refl _⟩⟩

namespace JobStore

open Sql

inductive Call where
  | add (fresh : JobId) (job : Job)
  | update (job : Job)
  | get (id : JobId)
  | last
  | running
  | list (page : Page)

inductive Reply where
  | added (id : JobId)
  | updated
  | found (job : Job)
  | listed (jobs : List Job)
  deriving DecidableEq, Repr

def Reply.atMicros : Reply → Reply
  | .found job => .found job.atMicros
  | .listed jobs => .listed (jobs.map Job.atMicros)
  | reply => reply

namespace Call

def arrival? : Call → Option Arrival
  | .add fresh job => if job.id = none then some ⟨fresh, job.createdAt⟩ else none
  | _ => none

def arrivals (calls : List Call) : List Arrival := calls.filterMap arrival?

def Addressable : Call → Prop
  | .list page => page.offset.toNat < 2 ^ 63
  | _ => True

end Call

section Serve

variable {σ : Type} [JobStore σ]

def serve (store : σ) : Call → Except StoreError Reply × σ
  | .add fresh job => Prod.map (Except.map .added) id (add fresh job store)
  | .update job => Prod.map (Except.map fun _ => .updated) id (update job store)
  | .get wanted => Prod.map (Except.map .found) id (get wanted store)
  | .last => Prod.map (Except.map .found) id (last store)
  | .running => Prod.map (Except.map .listed) id (running store)
  | .list page => Prod.map (Except.map .listed) id (list page store)

def answers (store : σ) : List Call → List (Except StoreError Reply)
  | [] => []
  | call :: calls => (serve store call).1 :: answers (serve store call).2 calls

end Serve

section Mirrors

variable {S : Type}

/-- The table holds the rows of the history's jobs, which are those that arrived. -/
structure Mirrors (rows : S → List Row) (capacity : Nat) (arrived : List Arrival)
    (archive : Archive S) (history : History) : Prop where
  opened : archive.closed = false
  table : (rows archive.server).Perm (history.jobs.map JobRow.row)
  capacity : history.capacity = capacity
  arrived : history.jobs.map Job.arrival? = arrived.map some

structure Agrees (rows : S → List Row) (capacity : Nat) (arrived : List Arrival)
    (mine : Except StoreError Reply × Archive S) (other : Except StoreError Reply × History) :
    Prop where
  answer : mine.1 = other.1.map Reply.atMicros
  stores : Mirrors rows capacity arrived mine.2 other.2

variable {rows : S → List Row} {capacity : Nat} {arrived : List Arrival} {archive : Archive S}
  {history : History}

namespace Agrees

variable (stores : Mirrors rows capacity arrived archive history)
include stores

theorem found {stored : Option Job} (named : ∀ job ∈ stored, job.id ≠ none)
    (otherwise : StoreError) :
    Agrees rows capacity arrived
      (Prod.map (Except.map .found) id (Archive.firstJob otherwise
        (.ok { rows := (stored.toList.map JobRow.row).map Row.selected }), archive))
      (Prod.map (Except.map .found) id (stored.elim (.error otherwise) .ok, history)) := by
  refine ⟨?_, stores⟩
  cases stored with
  | none => rfl
  | some job => exact congrArg (Except.map Reply.found) (JobRow.read_row (named job rfl))

theorem listed {jobs : List Job} (named : ∀ job ∈ jobs, job.id ≠ none) :
    Agrees rows capacity arrived
      (Prod.map (Except.map .listed) id
        (Archive.everyJob (.ok { rows := (jobs.map JobRow.row).map Row.selected }), archive))
      (Prod.map (Except.map .listed) id (.ok jobs, history)) :=
  ⟨congrArg (Except.map Reply.listed) (JobRow.mapM_read_row named), stores⟩

end Agrees

namespace Mirrors

variable (mirrors : Mirrors rows capacity arrived archive history)
include mirrors

theorem push_jobs (room : arrived.length < capacity) (job : Job) :
    (history.push job).jobs = history.jobs ++ [job] := by
  have length := congrArg List.length mirrors.arrived
  rw [List.length_map, List.length_map] at length
  have fits : (history.jobs ++ [job]).length - history.capacity = 0 := by
    rw [List.length_append, List.length_singleton, mirrors.capacity]
    omega
  rw [History.push, fits, History.dropFinished]

variable [Server S]

theorem add_named (fresh : JobId) {job : Job} (named : job.id ≠ none) :
    Agrees rows capacity arrived (serve archive (.add fresh job))
      (serve history (.add fresh job)) := by
  obtain ⟨existing, named⟩ := Option.ne_none_iff_exists'.mp named
  change Agrees _ _ _ (Prod.map _ id (Archive.add fresh job archive))
    (Prod.map _ id (History.add fresh job history))
  rw [Archive.add, History.add, Job.assignId, named]
  exact ⟨rfl, mirrors⟩

variable (standard : Standard rows)
include standard

theorem execute (call : String) (query : Query) : ∃ held server,
    held.Perm (history.jobs.map JobRow.row) ∧
    (rows server).Perm (Table.execute query ⟨held⟩).2.rows ∧
    archive.execute call query =
      ((Table.execute query ⟨held⟩).1.mapError (Archive.storeError call),
        { archive with server }) := by
  obtain ⟨held, permuted, result, left⟩ := standard.execute query archive.server
  refine ⟨held, (Server.execute query archive.server).2, permuted.trans mirrors.table, left, ?_⟩
  rw [Archive.execute, mirrors.opened, ← result]
  rfl

theorem select (call : String) {filter : Filter} {order : Order} {window : Window}
    {parameters : List Value} {found : List Job}
    (finds : ∀ held : List Row, held.Perm (history.jobs.map JobRow.row) →
      Table.windowed window parameters
        (Table.ordered order (held.filter (Table.keeps filter parameters))) =
          .ok (found.map JobRow.row)) :
    ∃ after, Mirrors rows capacity arrived after history ∧
      archive.execute call { statement := .select filter order window, parameters } =
        (.ok { rows := (found.map JobRow.row).map Row.selected }, after) := by
  obtain ⟨held, server, permuted, left, executed⟩ :=
    mirrors.execute standard call { statement := .select filter order window, parameters }
  simp only [Table.execute, finds held permuted] at left executed
  exact ⟨{ archive with server }, ⟨mirrors.opened, left.trans permuted, mirrors.capacity,
    mirrors.arrived⟩, executed⟩

theorem change (wanted : JobId) (job : Job) : ∃ after,
    Mirrors rows capacity arrived after { history with
      jobs := history.jobs.map fun stored =>
        if stored.id = some wanted then History.merge stored job else stored } ∧
    archive.execute "update_job" (JobRow.change wanted job) =
      (.ok { affected := history.jobs.countP fun job => job.id == some wanted }, after) := by
  obtain ⟨held, server, permuted, left, executed⟩ :=
    mirrors.execute standard "update_job" (JobRow.change wanted job)
  refine ⟨{ archive with server }, ⟨mirrors.opened, ?_, mirrors.capacity, ?_⟩, ?_⟩
  · refine left.trans ((permuted.map _).trans (.of_eq ?_))
    rw [List.map_map, List.map_map]
    exact List.map_congr_left fun stored _ => JobRow.change_row wanted stored job
  · rw [← mirrors.arrived, List.map_map]
    refine List.map_congr_left fun stored _ => ?_
    by_cases own : stored.id = some wanted <;> simp [own, Job.arrival?, History.merge]
  · have affected : held.countP (Table.hasId (.id wanted)) =
        history.jobs.countP fun job => job.id == some wanted := by
      rw [permuted.countP_eq, List.countP_map]
      exact congrArg (history.jobs.countP ·) (funext (JobRow.hasId_row wanted))
    rw [executed, ← affected]
    rfl

theorem insert {fresh : JobId} (new : some fresh ∉ history.jobs.map Job.id) {job : Job}
    (named : job.id = some fresh) : ∃ server,
    (rows server).Perm ((history.jobs ++ [job]).map JobRow.row) ∧
    archive.execute "add_job" (JobRow.insertion fresh job) =
      (.ok { affected := 1 }, { archive with server }) := by
  obtain ⟨held, server, permuted, left, executed⟩ :=
    mirrors.execute standard "add_job" (JobRow.insertion fresh job)
  have absent : held.any (Table.hasId (.id fresh)) = false := by
    rw [permuted.any_eq, List.any_map, List.any_eq_false]
    intro stored member
    rw [Function.comp_apply, JobRow.hasId_row, beq_iff_eq]
    exact fun same => new (same ▸ List.mem_map_of_mem member)
  have same : { job with id := some fresh } = job := by rw [← named]
  rw [JobRow.execute_insertion absent, JobRow.bound_insertion, same] at left executed
  refine ⟨server, left.trans ?_, executed⟩
  rw [List.map_append]
  exact permuted.append_right _

theorem add {fresh : JobId} {job : Job} (unnamed : job.id = none)
    (increasing : (arrived ++ [Arrival.mk fresh job.createdAt]).Pairwise Arrival.Before)
    (room : arrived.length < capacity) :
    Agrees rows capacity (arrived ++ [Arrival.mk fresh job.createdAt])
      (serve archive (.add fresh job)) (serve history (.add fresh job)) := by
  let stored : Job := { job with id := some fresh }
  have grown : (history.jobs ++ [stored]).map Job.arrival? =
      (arrived ++ [Arrival.mk fresh job.createdAt]).map some := by
    rw [List.map_append, List.map_append, mirrors.arrived]
    rfl
  -- The id is new to the table, since with the new job the ids still increase.
  have distinct := JobRow.Succession.distinct ⟨grown, increasing⟩
  have new : some fresh ∉ history.jobs.map Job.id := by
    rw [List.map_append, List.nodup_append] at distinct
    exact fun member => distinct.2.2 _ member (some fresh) (by simp [stored]) rfl
  have kept := mirrors.push_jobs room stored
  have named : stored.id = some fresh := rfl
  obtain ⟨server, table, executed⟩ := mirrors.insert standard new named
  change Agrees _ _ _ (Prod.map _ id (Archive.add fresh job archive))
    (Prod.map _ id (JobStore.add fresh job history))
  rw [History.add_new fresh unnamed, Archive.add, Job.assignId, unnamed]
  dsimp only
  rw [executed]
  refine ⟨rfl, mirrors.opened, ?_, mirrors.capacity, ?_⟩
  · exact kept ▸ table
  · exact kept ▸ grown

section Known

variable (succession : JobRow.Succession arrived history.jobs)
include succession

theorem get (wanted : JobId) :
    Agrees rows capacity arrived (serve archive (.get wanted)) (serve history (.get wanted)) := by
  obtain ⟨after, stores, executed⟩ := mirrors.select standard "get_job"
    fun held permuted => succession.selects_id permuted wanted
  have named : ∀ job ∈ history.find? wanted, job.id ≠ none := fun job found =>
    succession.named job (List.mem_of_find?_eq_some found)
  have found : History.get wanted history =
      ((history.find? wanted).elim (.error (.notFound wanted)) .ok, history) := by
    unfold History.get
    cases history.find? wanted <;> rfl
  change Agrees _ _ _ (Prod.map _ id (Archive.get wanted archive))
    (Prod.map _ id (History.get wanted history))
  rw [Archive.get, executed, found]
  exact .found stores named (.notFound wanted)

theorem last : Agrees rows capacity arrived (serve archive .last) (serve history .last) := by
  obtain ⟨after, stores, executed⟩ := mirrors.select standard "get_last_job"
    fun held permuted => succession.selects_last permuted
  have named : ∀ job ∈ history.jobs.getLast?, job.id ≠ none := fun job found =>
    succession.named job (List.mem_of_getLast? found)
  have found : History.last history =
      (history.jobs.getLast?.elim (.error .empty) .ok, history) := by
    unfold History.last
    cases history.jobs.getLast? <;> rfl
  change Agrees _ _ _ (Prod.map _ id (Archive.last archive)) (Prod.map _ id (History.last history))
  rw [Archive.last, executed, found]
  exact .found stores named .empty

theorem running :
    Agrees rows capacity arrived (serve archive .running) (serve history .running) := by
  obtain ⟨after, stores, executed⟩ := mirrors.select standard "running_jobs"
    fun held permuted => succession.selects_running permuted
  change Agrees _ _ _ (Prod.map _ id (Archive.running archive)) _
  rw [Archive.running, executed]
  exact .listed stores fun job member => succession.named job (List.mem_of_mem_filter member)

theorem list {page : Page} (addressable : page.offset.toNat < 2 ^ 63) :
    Agrees rows capacity arrived (serve archive (.list page)) (serve history (.list page)) := by
  obtain ⟨after, stores, executed⟩ := mirrors.select standard "list_jobs"
    fun held permuted => succession.selects_page permuted addressable
  have named : ∀ job ∈ page.window history.jobs.reverse, job.id ≠ none := fun job member =>
    succession.named job (List.mem_reverse.mp (List.mem_of_mem_drop (List.mem_of_mem_take member)))
  change Agrees _ _ _ (Prod.map _ id (Archive.list page archive)) _
  rw [Archive.list, executed]
  exact .listed stores named

theorem update (job : Job) :
    Agrees rows capacity arrived (serve archive (.update job)) (serve history (.update job)) := by
  change Agrees _ _ _ (Prod.map _ id (Archive.update job archive))
    (Prod.map _ id (History.update job history))
  unfold Archive.update History.update
  cases named : job.id with
  | none => exact ⟨rfl, mirrors⟩
  | some wanted =>
    obtain ⟨after, stores, executed⟩ := mirrors.change standard wanted job
    dsimp only
    rw [executed]
    cases found : history.find? wanted with
    | none =>
      have absent := History.find?_eq_none_iff.mp found
      have nobody : history.jobs.countP (fun job => job.id == some wanted) = 0 := by
        rw [List.countP_eq_zero]
        exact List.find?_eq_none.mp found
      -- Where the id is not found, no row is overwritten either.
      rw [History.mergeFirst_of_not_mem absent] at stores
      exact ⟨congrArg (Except.map _) (if_pos nobody), stores⟩
    | some stored =>
      have somebody : history.jobs.countP (fun job => job.id == some wanted) ≠ 0 := by
        rw [Ne, List.countP_eq_zero, ← List.find?_eq_none]
        exact fun none => Option.some_ne_none stored (found.symm.trans none)
      rw [← History.mergeFirst_eq_map succession.distinct] at stores
      exact ⟨congrArg (Except.map _) (if_neg somebody), stores⟩

end Known

theorem step (call : Call) (increasing : (arrived ++ call.arrival?.toList).Pairwise Arrival.Before)
    (room : (arrived ++ call.arrival?.toList).length ≤ capacity) (addressable : call.Addressable) :
    Agrees rows capacity (arrived ++ call.arrival?.toList) (serve archive call)
      (serve history call) := by
  have known : JobRow.Succession arrived history.jobs :=
    ⟨mirrors.arrived, increasing.sublist (List.sublist_append_left _ _)⟩
  cases call with
  | add fresh job =>
    by_cases unnamed : job.id = none
    next =>
      have arrives : (Call.add fresh job).arrival? = some ⟨fresh, job.createdAt⟩ := if_pos unnamed
      rw [arrives] at increasing room ⊢
      rw [List.length_append] at room
      exact mirrors.add standard unnamed increasing room
    next =>
      have nobody : (Call.add fresh job).arrival? = none := if_neg unnamed
      rw [nobody, Option.toList_none, List.append_nil]
      exact mirrors.add_named fresh unnamed
  | update job => exact (List.append_nil arrived).symm ▸ mirrors.update standard known job
  | get wanted => exact (List.append_nil arrived).symm ▸ mirrors.get standard known wanted
  | last => exact (List.append_nil arrived).symm ▸ mirrors.last standard known
  | running => exact (List.append_nil arrived).symm ▸ mirrors.running standard known
  | list page => exact (List.append_nil arrived).symm ▸ mirrors.list standard known addressable

theorem run (calls : List Call)
    (increasing : (arrived ++ Call.arrivals calls).Pairwise Arrival.Before)
    (room : (arrived ++ Call.arrivals calls).length ≤ capacity)
    (addressable : ∀ call ∈ calls, call.Addressable) :
    answers archive calls = (answers history calls).map (Except.map Reply.atMicros) := by
  induction calls generalizing archive history arrived with
  | nil => rfl
  | cons call calls ih =>
    -- What the first call adds has arrived by the time of the others.
    have first : arrived ++ Call.arrivals (call :: calls) =
        (arrived ++ call.arrival?.toList) ++ Call.arrivals calls := by
      cases arrives : call.arrival? <;> simp [Call.arrivals, arrives]
    rw [first] at increasing room
    rw [List.forall_mem_cons] at addressable
    have served := mirrors.step standard call
      (increasing.sublist (List.sublist_append_left _ _))
      ((List.sublist_append_left _ _).length_le.trans room) addressable.1
    rw [answers, answers, List.map_cons, served.answer,
      ih served.stores increasing room addressable.2]

end Mirrors

end Mirrors

/-- However many calls are made, both stores give the same answers and the same refusals, with the
jobs in the same order. -/
theorem stores_answer_alike {S : Type} [Server S] {rows : S → List Row}
    (standard : Standard rows) {server : S} (empty : rows server = []) (capacity : Nat)
    (calls : List Call) (increasing : (Call.arrivals calls).Pairwise Arrival.Before)
    (room : (Call.arrivals calls).length ≤ (History.withCapacity capacity).capacity)
    (addressable : ∀ call ∈ calls, call.Addressable) :
    answers ({ server } : Archive S) calls =
      (answers (History.withCapacity capacity) calls).map (Except.map Reply.atMicros) := by
  have mirrors : Mirrors rows (History.withCapacity capacity).capacity []
      ({ server } : Archive S) (History.withCapacity capacity) :=
    ⟨rfl, .of_eq empty, rfl, rfl⟩
  exact mirrors.run standard calls increasing room addressable

section Busy

def early : Job := { Job.new .all ⟨951782400, 123456789⟩ with id := some ⟨1⟩ }

def late : Job := { Job.new .fieldEngineers ⟨951782400, 123457000⟩ with id := some ⟨2⟩ }

def ended : Job := { early with outcome := some .success }

def busy : List Call :=
  [.last, .add ⟨1⟩ { early with id := none }, .add ⟨7⟩ early, .add ⟨2⟩ { late with id := none },
    .update ended, .update { ended with id := none }, .update { ended with id := some ⟨9⟩ },
    .get ⟨1⟩, .get ⟨9⟩, .last, .running, .list ⟨1, 10, by decide, by decide⟩]

theorem busy_stores_answer_alike :
    answers ({ server := {} } : Archive Table) busy =
      [.error .empty, .ok (.added ⟨1⟩),
        .error (.domain (.invariant
          "job id already assigned (00000000-0000-0000-0000-000000000001)")),
        .ok (.added ⟨2⟩), .ok .updated, .error unsaved, .error (.notFound ⟨9⟩),
        .ok (.found ended.atMicros), .error (.notFound ⟨9⟩), .ok (.found late),
        .ok (.listed [late]), .ok (.listed [late, ended.atMicros])] := by
  have arrived : Call.arrivals busy = [⟨⟨1⟩, early.createdAt⟩, ⟨⟨2⟩, late.createdAt⟩] := rfl
  have increasing : (Call.arrivals busy).Pairwise Arrival.Before :=
    arrived ▸ List.pairwise_pair.mpr ⟨by decide, by decide⟩
  have addressable : ∀ call ∈ busy, call.Addressable := by
    simp [busy, Call.Addressable]
    decide
  rw [stores_answer_alike Table.standard rfl 2 busy increasing (by decide) addressable]
  decide

end Busy

end JobStore

end TicketReports
