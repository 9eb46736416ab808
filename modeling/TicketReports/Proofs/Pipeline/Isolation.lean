import TicketReports.Pipeline.Live
import TicketReports.Proofs.Processor.Segments
import TicketReports.Proofs.Report.Folder

set_option autoImplicit false

namespace TicketReports

namespace Paging

variable {ε S α β : Type}

theorem each_append (chain : β → Timed ε S Unit) (first later : List β) (left : Nat) (s : S) :
    each chain (first ++ later) left s =
      match each chain first left s with
      | (.error error, left, s) => (.error error, left, s)
      | (.ok (), left, s) => each chain later left s := by
  induction first generalizing left s with
  | nil => rfl
  | cons item rest ih =>
    simp only [List.cons_append, each]
    split
    next => rfl
    next => exact ih _ _

theorem each_single (chain : β → Timed ε S Unit) (item : β) (left : Nat) (s : S) :
    each chain [item] left s = chain item left s := by
  simp only [each]
  split
  next failed => rw [failed]
  next done => rw [done]

theorem follow_keeps (holds : S → Prop) (timeUp : ε) {fetch : String → Timed ε S (ResultPage α)}
    {keep : List α → S → S}
    (fetches : ∀ bookmark left s, holds s → holds (fetch bookmark left s).2.2)
    (keeps : ∀ records s, holds s → holds (keep records s)) (bookmark : String) (left : Nat) (s : S)
    (before : holds s) : holds (follow timeUp fetch keep bookmark left s).2.2 := by
  fun_induction follow timeUp fetch keep bookmark left s with
  | case1 bookmark left s error after next fetched =>
    have kept := fetches bookmark left s before
    rwa [fetched] at kept
  | case2 bookmark left s page after next fetched stored last =>
    have kept := fetches bookmark left s before
    rw [fetched] at kept
    exact keeps _ _ kept
  | case3 bookmark left s page after next fetched stored more less ih =>
    have kept := fetches bookmark left s before
    rw [fetched] at kept
    exact ih (keeps _ _ kept)
  | case4 bookmark left s page after next fetched stored more spent =>
    have kept := fetches bookmark left s before
    rw [fetched] at kept
    exact keeps _ _ kept

theorem each_keeps (holds : S → Prop) {chain : β → Timed ε S Unit} {items : List β}
    (keeps : ∀ item ∈ items, ∀ left s, holds s → holds (chain item left s).2.2) (left : Nat) (s : S)
    (before : holds s) : holds (each chain items left s).2.2 := by
  induction items generalizing left s with
  | nil => exact before
  | cons item rest ih =>
    have kept := keeps item List.mem_cons_self left s before
    simp only [each]
    split
    next failed => rwa [failed] at kept
    next done =>
      rw [done] at kept
      exact ih (fun other member => keeps other (List.mem_cons_of_mem item member)) _ _ kept

end Paging

/-- Two computations come to the same result in the same time. What they leave is related by `kept`
if that is success, else by `broken`. -/
inductive Alike {ε S : Type} (broken kept : S → S → Prop) :
    Except ε Unit × Nat × S → Except ε Unit × Nat × S → Prop
  | succeed (left : Nat) (a b : S) (same : kept a b) :
      Alike broken kept (.ok (), left, a) (.ok (), left, b)
  | fail (error : ε) (left : Nat) (a b : S) (same : broken a b) :
      Alike broken kept (.error error, left, a) (.error error, left, b)

theorem Alike.refl {ε S : Type} {broken kept : S → S → Prop} (failed : ∀ s, broken s s)
    (done : ∀ s, kept s s) (x : Except ε Unit × Nat × S) : Alike broken kept x x := by
  obtain ⟨_ | _, left, s⟩ := x
  · exact .fail _ left s s (failed s)
  · exact .succeed left s s (done s)

theorem Alike.andThen {ε S β : Type} {broken kept next : S → S → Prop}
    {chain : β → Timed ε S Unit} {first later : List β} {left : Nat} {a b : S}
    (alike : Alike broken kept (Paging.each chain first left a) (Paging.each chain first left b))
    (goOn : ∀ left a b, kept a b →
      Alike broken next (Paging.each chain later left a) (Paging.each chain later left b)) :
    Alike broken next (Paging.each chain (first ++ later) left a)
      (Paging.each chain (first ++ later) left b) := by
  rw [Paging.each_append, Paging.each_append]
  generalize Paging.each chain first left a = x at alike ⊢
  generalize Paging.each chain first left b = y at alike ⊢
  cases alike with
  | succeed left a b same => exact goOn left a b same
  | fail error left a b same => exact .fail error left a b same

namespace Report

def Fit (dir : String) : Prop := endsInDot dir = false ∧ serviceDeskFile ∉ detours dir

instance (dir : String) : Decidable (Fit dir) := inferInstanceAs (Decidable (_ ∧ _))

end Report

namespace Folder

def Ordinary (folder : Folder) : Prop :=
  folder ≠ .blocked ∧ ∀ entry ∈ folder.entries, entry.2 ≠ .directory

instance (folder : Folder) : Decidable folder.Ordinary := inferInstanceAs (Decidable (_ ∧ _))

theorem ensure_ordinary {dir : String} (fit : Report.Fit dir) {folder : Folder}
    (ordinary : folder.Ordinary) : ∃ entries : List (String × File),
      entries.lookup Report.serviceDeskFile ≠ some .directory ∧
      folder.ensure dir =
        match Report.placeFlaw? dir with
        | some flaw => .error flaw
        | none => .ok (.present entries) := by
  obtain ⟨entries, origin, ensured⟩ := ensure_unblocked fit.1 ordinary.1
  refine ⟨entries, ?_, ensured⟩
  rcases origin with rfl | rfl
  · exact fun held => ordinary.2 _ (mem_of_lookup held) rfl
  · -- A directory made on the way has another name.
    exact lookup_rooms fit.2

end Folder

namespace Report

variable {dir : String}

theorem writeEngineers_alike (fit : Fit dir) (snapshot : Snapshot) (left : Nat) {a b : Folder}
    (ordinary : a.Ordinary) (others : b.Ordinary) :
    Alike (fun _ _ => True) Eq (writeEngineers dir snapshot left a)
      (writeEngineers dir snapshot left b) := by
  unfold writeEngineers
  rw [Folder.recreate_unblocked fit.1 ordinary.1, Folder.recreate_unblocked fit.1 others.1]
  cases placeFlaw? dir with
  | some flaw => exact .fail _ _ _ _ trivial
  | none =>
    -- From here on both start from the empty directory.
    exact .refl (fun _ => trivial) (fun _ => rfl) _

def SameDesk (a b : Folder) : Prop :=
  ∃ entries others, a = .present entries ∧ b = .present others ∧
    others.lookup serviceDeskFile = entries.lookup serviceDeskFile

theorem writeDesk_alike (fit : Fit dir) (snapshot : Snapshot) (left : Nat) {a b : Folder}
    (ordinary : a.Ordinary) (others : b.Ordinary) :
    Alike (fun _ _ => True) SameDesk (writeDesk dir snapshot left a)
      (writeDesk dir snapshot left b) := by
  obtain ⟨entries, clear, made⟩ := Folder.ensure_ordinary fit ordinary
  obtain ⟨stale, otherClear, otherMade⟩ := Folder.ensure_ordinary fit others
  unfold writeDesk
  rw [made, otherMade]
  cases placeFlaw? dir with
  | some flaw => exact .fail _ _ _ _ trivial
  | none =>
    dsimp only
    split
    next => exact .fail _ _ _ _ trivial
    next =>
      rw [save_present clear, save_present otherClear]
      cases saveFlaw? dir serviceDeskFile (deskWorkbook snapshot) with
      | some error => exact .fail _ _ _ _ trivial
      | none => exact .succeed _ _ _ ⟨_, _, rfl, rfl, by simp⟩

end Report

namespace Live

variable {W : Type}

/-- What is seen of a world from outside: what it calls, its users and its tickets. -/
structure Shared (a b : Live W) : Prop where
  net : b.net = a.net
  users : b.snapshot.users = a.snapshot.users
  tickets : b.snapshot.tickets = a.snapshot.tickets

theorem Shared.refl (live : Live W) : Shared live live := ⟨rfl, rfl, rfl⟩

def Beside (a b : Live W) : Prop := b = { a with folder := b.folder }

theorem Beside.shared {a b : Live W} (beside : Beside a b) : Shared a b := by
  rw [beside]
  exact ⟨rfl, rfl, rfl⟩

structure Writable (a b : Live W) : Prop where
  beside : Beside a b
  fit : Report.Fit a.settings.reportsDir
  ordinary : a.folder.Ordinary
  others : b.folder.Ordinary

structure Written (a b : Live W) : Prop where
  beside : Beside a b
  desk : Report.SameDesk a.folder b.folder

section Steps

variable [Network W] {a b : Live W}

theorem prelude_alike (settings : b.settings = a.settings) (net : b.net = a.net)
    (fit : Report.Fit a.settings.reportsDir) (ordinary : a.folder.Ordinary)
    (others : b.folder.Ordinary) (left : Nat) :
    Alike Shared Writable (Paging.each run [.forgetUsers, .forgetTickets, .channels] left a)
      (Paging.each run [.forgetUsers, .forgetTickets, .channels] left b) := by
  have emptied : ∀ live : Live W,
      Paging.each run [.forgetUsers, .forgetTickets, .channels] left live =
        run .channels left { live with snapshot := { channels := live.snapshot.channels } } :=
    fun live => Paging.each_single run .channels left _
  rw [emptied, emptied]
  simp only [run, download, Download.loadChannels, settings, net]
  generalize a.settings.endpoints.channels.get "" left a.net = answer
  obtain ⟨reply, after, net⟩ := answer
  dsimp only
  cases Download.decoded .channels Channel.listOfJson? reply with
  | error error => exact .fail _ _ _ _ ⟨rfl, rfl, rfl⟩
  | ok channels => exact .succeed _ _ _ ⟨rfl, fit, ordinary, others⟩

theorem download_alike (writable : Writable a b) {step : Step}
    (downloads : step = .users ∨ step = .tickets) (left : Nat) :
    Alike Shared Writable (Paging.each run [step] left a) (Paging.each run [step] left b) := by
  obtain ⟨beside, fit, ordinary, others⟩ := writable
  rw [Paging.each_single, Paging.each_single, beside]
  rcases downloads with rfl | rfl
  · simp only [run, download]
    generalize Download.loadUsers a.settings.endpoints left (a.snapshot, a.net) = answer
    obtain ⟨_ | _, after, snapshot, net⟩ := answer
    · exact .fail _ _ _ _ ⟨rfl, rfl, rfl⟩
    · exact .succeed _ _ _ ⟨rfl, fit, ordinary, others⟩
  · simp only [run, download]
    generalize Download.loadTickets a.settings.endpoints left (a.snapshot, a.net) = answer
    obtain ⟨_ | _, after, snapshot, net⟩ := answer
    · exact .fail _ _ _ _ ⟨rfl, rfl, rfl⟩
    · exact .succeed _ _ _ ⟨rfl, fit, ordinary, others⟩

theorem engineers_alike (writable : Writable a b) (left : Nat) :
    Alike Shared Eq (Paging.each run [.report .fieldEngineers] left a)
      (Paging.each run [.report .fieldEngineers] left b) := by
  obtain ⟨beside, fit, ordinary, others⟩ := writable
  have alike := Report.writeEngineers_alike fit a.snapshot left ordinary others
  rw [Paging.each_single, Paging.each_single, beside]
  simp only [run, report, Report.write]
  generalize Report.writeEngineers a.settings.reportsDir a.snapshot left a.folder = x at alike ⊢
  generalize Report.writeEngineers a.settings.reportsDir a.snapshot left b.folder = y at alike ⊢
  cases alike with
  | succeed after _ _ same => exact .succeed _ _ _ (by rw [same])
  | fail error after _ _ _ => exact .fail _ _ _ _ ⟨rfl, rfl, rfl⟩

theorem desk_alike (writable : Writable a b) (left : Nat) :
    Alike Shared Written (Paging.each run [.report .serviceDesk] left a)
      (Paging.each run [.report .serviceDesk] left b) := by
  obtain ⟨beside, fit, ordinary, others⟩ := writable
  have alike := Report.writeDesk_alike fit a.snapshot left ordinary others
  rw [Paging.each_single, Paging.each_single, beside]
  simp only [run, report, Report.write]
  generalize Report.writeDesk a.settings.reportsDir a.snapshot left a.folder = x at alike ⊢
  generalize Report.writeDesk a.settings.reportsDir a.snapshot left b.folder = y at alike ⊢
  cases alike with
  | succeed after _ _ same => exact .succeed _ _ _ ⟨rfl, same⟩
  | fail error after _ _ _ => exact .fail _ _ _ _ ⟨rfl, rfl, rfl⟩

theorem mail_alike (written : Written a b) (left : Nat) :
    Alike Shared Shared (Paging.each run [.mail .serviceDesk] left a)
      (Paging.each run [.mail .serviceDesk] left b) := by
  obtain ⟨beside, entries, others, held, otherHeld, same⟩ := written
  rw [Paging.each_single, Paging.each_single, beside]
  have messages : Mail.messages a.settings.mail a.settings.reportsDir .serviceDesk a.snapshot
      b.folder = Mail.messages a.settings.mail a.settings.reportsDir .serviceDesk a.snapshot
      a.folder := by
    simp only [Mail.messages, Mail.deskMessages, Mail.attach]
    rw [held, otherHeld, Folder.read_congr same]
  simp only [run, mail, Mail.send, messages]
  split
  next => exact .fail _ _ _ _ ⟨rfl, rfl, rfl⟩
  next => exact .succeed _ _ _ ⟨rfl, rfl, rfl⟩
  next batch _ _ =>
    generalize Mail.post a.settings.mail a.settings.requestTimeout batch left a.net = answer
    obtain ⟨_ | _, after, net⟩ := answer
    · exact .fail _ _ _ _ ⟨rfl, rfl, rfl⟩
    · exact .succeed _ _ _ ⟨rfl, rfl, rfl⟩

/-- Two runs of a job on worlds with the same settings, before the same upstream, come to the same
result; they have made the same calls and leave the same users and tickets. -/
theorem runs_alike (kind : JobKind) (settings : b.settings = a.settings) (net : b.net = a.net)
    (fit : Report.Fit a.settings.reportsDir) (ordinary : a.folder.Ordinary)
    (others : b.folder.Ordinary) (left : Nat) :
    Alike Shared Shared (Paging.each run kind.steps left a)
      (Paging.each run kind.steps left b) := by
  have steps : kind.steps = [.forgetUsers, .forgetTickets, .channels] ++ ([.users] ++
      ([.tickets] ++ (kind.audiences.map .report ++ kind.audiences.map .mail))) := by
    rw [kind.steps_eq, List.append_assoc]
    rfl
  have equal : ∀ (steps : List Step) (left : Nat) (a b : Live W), a = b →
      Alike Shared Shared (Paging.each run steps left a) (Paging.each run steps left b) :=
    fun steps left a b same => same ▸ .refl .refl .refl _
  rw [steps]
  refine (prelude_alike settings net fit ordinary others left).andThen fun left a b ready => ?_
  refine (download_alike ready (.inl rfl) left).andThen fun left a b ready => ?_
  refine (download_alike ready (.inr rfl) left).andThen fun left a b ready => ?_
  cases kind with
  | fieldEngineers => exact (engineers_alike ready left).andThen (equal [.mail .fieldEngineers])
  | serviceDesk =>
    exact (desk_alike ready left).andThen fun left a b written => mail_alike written left
  | all =>
    exact (engineers_alike ready left).andThen
      (equal [.report .serviceDesk, .mail .fieldEngineers, .mail .serviceDesk])

theorem run_users {step : Step} (calm : step ≠ .forgetUsers ∧ step ≠ .users) (left : Nat)
    (live : Live W) : (run step left live).2.2.snapshot.users = live.snapshot.users := by
  cases step with
  | forgetUsers => exact absurd rfl calm.1
  | users => exact absurd rfl calm.2
  | channels =>
    simp only [run, download, Download.loadChannels]
    split <;> rfl
  | tickets =>
    let holds (scene : Download.Scene W) : Prop := scene.1.users = live.snapshot.users
    refine Paging.each_keeps holds (fun chain _ left scene => ?_) left (live.snapshot, live.net) rfl
    refine Paging.follow_keeps holds _ ?_ ?_ "" left scene
    · exact fun _ _ _ kept => kept
    · exact fun _ _ kept => kept
  | _ => rfl

theorem run_tickets {step : Step} (calm : step ≠ .forgetTickets ∧ step ≠ .tickets) (left : Nat)
    (live : Live W) : (run step left live).2.2.snapshot.tickets = live.snapshot.tickets := by
  cases step with
  | forgetTickets => exact absurd rfl calm.1
  | tickets => exact absurd rfl calm.2
  | channels =>
    simp only [run, download, Download.loadChannels]
    split <;> rfl
  | users =>
    let holds (scene : Download.Scene W) : Prop := scene.1.tickets = live.snapshot.tickets
    refine Paging.each_keeps holds (fun channel _ left scene => ?_) left (live.snapshot, live.net)
      rfl
    refine Paging.follow_keeps holds _ ?_ ?_ "" left scene
    · exact fun _ _ _ kept => kept
    · exact fun _ _ kept => kept
  | _ => rfl

end Steps

section Settled

variable [Network W] {kind : JobKind} {made rest : List Step}

theorem settled (plan : kind.steps = made ++ rest) :
    (.users ∈ made → ∀ step ∈ rest, step ≠ .forgetUsers ∧ step ≠ .users) ∧
      (.tickets ∈ made → ∀ step ∈ rest, step ≠ .forgetTickets ∧ step ≠ .tickets) := by
  have ordered : kind.steps.Pairwise fun earlier later =>
      (earlier = .users → later ≠ .forgetUsers ∧ later ≠ .users) ∧
        (earlier = .tickets → later ≠ .forgetTickets ∧ later ≠ .tickets) := by
    cases kind <;> decide
  rw [plan, List.pairwise_append] at ordered
  have apart := ordered.2.2
  exact ⟨fun passed step member => (apart _ passed step member).1 rfl,
    fun passed step member => (apart _ passed step member).2 rfl⟩

theorem users_settled (plan : kind.steps = made ++ rest) (passed : .users ∈ made) (left : Nat)
    (live : Live W) :
    (Paging.each run rest left live).2.2.snapshot.users = live.snapshot.users :=
  Paging.each_keeps (fun later : Live W => later.snapshot.users = live.snapshot.users)
    (fun step member left later kept =>
      (run_users ((settled plan).1 passed step member) left later).trans kept) left live rfl

theorem tickets_settled (plan : kind.steps = made ++ rest) (passed : .tickets ∈ made) (left : Nat)
    (live : Live W) :
    (Paging.each run rest left live).2.2.snapshot.tickets = live.snapshot.tickets :=
  Paging.each_keeps (fun later : Live W => later.snapshot.tickets = live.snapshot.tickets)
    (fun step member left later kept =>
      (run_tickets ((settled plan).2 passed step member) left later).trans kept) left live rfl

end Settled

end Live

end TicketReports
