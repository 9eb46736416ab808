import TicketReports.Http.Router
import TicketReports.Proofs.JobStore.Pages
import TicketReports.Proofs.Text.Numeral

set_option autoImplicit false

namespace TicketReports

namespace Page

def Asked : Option String → UInt32 → Prop
  | none, number => number = 1
  | some text, number => number ≠ 0 ∧ Text.Numeral text.toList number.toNat

theorem Asked.counted {asked : Option String} {number : UInt32} (named : Asked asked number) :
    number ≠ 0 := by
  cases asked with
  | none =>
    cases named
    decide
  | some text => exact named.1

def refusal (text : String) : String := "invalid page '" ++ text ++ "': must be a positive integer"

theorem toNat_le_limit (number : UInt32) : number.toNat ≤ Text.limit32 :=
  Nat.le_pred_of_lt number.toNat_lt

theorem read_numeral {text : String} {number : UInt32} (counted : number ≠ 0)
    (numeral : Text.Numeral text.toList number.toNat) : Page.read (some text) = .ok number := by
  have read := Text.readNumeral_eq_ok_iff.mpr ⟨numeral, toNat_le_limit number⟩
  obtain ⟨n, follows⟩ := Nat.exists_eq_add_one.mpr (toNat_pos counted)
  rw [follows] at read
  simp only [Page.read, read]
  rw [← follows, UInt32.ofNat_toNat]

theorem read_cases (text : String) :
    (∃ number, Asked (some text) number ∧ Page.read (some text) = .ok number) ∨
      (∀ number, ¬Asked (some text) number) ∧ Page.read (some text) = .error (refusal text) := by
  by_cases named : ∃ number, Asked (some text) number
  · obtain ⟨number, counted, numeral⟩ := named
    exact .inl ⟨number, ⟨counted, numeral⟩, read_numeral counted numeral⟩
  · refine .inr ⟨not_exists.mp named, ?_⟩
    rw [Page.read]
    split
    next n read =>
      obtain ⟨numeral, fits⟩ := Text.readNumeral_eq_ok_iff.mp read
      have number : (UInt32.ofNat (n + 1)).toNat = n + 1 :=
        toNat_number (Nat.lt_of_le_pred (by decide) fits)
      refine absurd ⟨.ofNat (n + 1), fun zero => ?_, ?_⟩ named
      · rw [zero] at number
        cases number
      · rw [number]
        exact numeral
    next => rfl

theorem read_eq_ok_iff {asked : Option String} {number : UInt32} :
    Page.read asked = .ok number ↔ Asked asked number := by
  cases asked with
  | none => simp [Page.read, Asked, eq_comm]
  | some text =>
    refine ⟨fun read => ?_, fun ⟨counted, numeral⟩ => read_numeral counted numeral⟩
    rcases read_cases text with ⟨other, named, same⟩ | ⟨_, refused⟩
    · cases read.symm.trans same
      exact named
    · cases read.symm.trans refused

end Page

namespace Http

structure Call.AsksForPage (call : Call) (asked : Option String) : Prop where
  method : call.method = "GET"
  path : call.path = "/jobs"
  page : pageOf call.query = .ok asked

variable {W : Type} {call : Call} {asked : Option String}

theorem respond_page {σ : Type} [JobStore σ] (asks : call.AsksForPage asked) (fresh : JobId)
    (now : Timestamp) (service : Service σ W) :
    respond call fresh now service = listJobs call.query service := by
  have route : Route.ofPath call.path = .jobs := by
    rw [asks.path]
    decide
  simp [respond, route, asks.method, show?]

theorem listJobs_page {service : Service History W} (page : pageOf call.query = .ok asked)
    {number : UInt32} (named : Page.Asked asked number) {jobs : List Job}
    (listed : service.processor.store.listed 10 number = .ok jobs) :
    listJobs call.query service = (.json 200 (.array (jobs.map Job.toJson)), service) := by
  have made := Page.new_ok named.counted (show Page.jobsPerPage ≠ 0 by decide)
  simp only [listJobs, page, Page.read_eq_ok_iff.mpr named, JobStore.listPage, Page.ofJobs, made]
  rw [History.listed, show (10 : UInt32) = Page.jobsPerPage from rfl, made] at listed
  cases listed
  rfl

theorem listJobs_refused {σ : Type} [JobStore σ] {service : Service σ W} {text : String}
    (page : pageOf call.query = .ok (some text))
    (unnamed : ∀ number, ¬Page.Asked (some text) number) :
    listJobs call.query service = (.error 400 (Page.refusal text), service) := by
  rcases Page.read_cases text with ⟨number, named, _⟩ | ⟨_, refused⟩
  · exact absurd named (unnamed number)
  · simp only [listJobs, page, refused]

/-- The pages of any size, taken in order, show every job of a history once, the one added last
first. -/
theorem pages_partition_the_history (history : History) :
    (∀ size, size ≠ 0 → history.Paged size) ∧
    (∀ asked number, Page.read asked = .ok number ↔ Page.Asked asked number) ∧
    ∀ (call : Call) asked, call.AsksForPage asked → ∀ fresh now,
      (∀ number, Page.Asked asked number → ∃ jobs, history.listed 10 number = .ok jobs ∧
        ∀ (W : Type) (service : Service History W), service.processor.store = history →
          respond call fresh now service = (.json 200 (.array (jobs.map Job.toJson)), service)) ∧
      ((∀ number, ¬Page.Asked asked number) → ∃ text, asked = some text ∧
        ∀ (σ W : Type) [JobStore σ] (service : Service σ W), respond call fresh now service =
          (.error 400 ("invalid page '" ++ text ++ "': must be a positive integer"), service)) := by
  refine ⟨fun size roomy => history.pages_cut_the_history roomy,
    fun asked number => Page.read_eq_ok_iff,
    fun call asked asks fresh now => ⟨fun number named => ?_, fun unnamed => ?_⟩⟩
  · have listed := history.listed_ok (show (10 : UInt32) ≠ 0 by decide) named.counted
    refine ⟨_, listed, fun W service stored => ?_⟩
    rw [respond_page asks]
    exact listJobs_page asks.page named (stored ▸ listed)
  · cases asked with
    | none => exact absurd rfl (unnamed 1)
    | some text =>
      refine ⟨text, rfl, fun σ W _ service => ?_⟩
      rw [respond_page asks]
      exact listJobs_refused asks.page unnamed

section Example

def threeJobs : History :=
  { capacity := 10
    jobs := [.new .all ⟨0, 0⟩, .new .fieldEngineers ⟨1, 0⟩, .new .serviceDesk ⟨2, 0⟩] }

theorem pages_partition_three_jobs :
    let named : Call := { method := "GET", target := "/jobs?page=%2B1" }
    let stray : Call := { method := "GET", target := "/jobs?page=0" }
    (2 : UInt32) ≠ 0 ∧ threeJobs.Paged 2 ∧ Page.needed 3 2 = 2 ∧
      named.AsksForPage (some "+1") ∧ Page.Asked (some "+1") 1 ∧
      stray.AsksForPage (some "0") ∧ (∀ number, ¬Page.Asked (some "0") number) ∧
      ∀ fresh now,
        (∀ (W : Type) (service : Service History W), service.processor.store = threeJobs →
          respond named fresh now service =
            (.json 200 (.array (threeJobs.jobs.reverse.map Job.toJson)), service)) ∧
        ∀ (σ W : Type) [JobStore σ] (service : Service σ W), respond stray fresh now service =
          (.error 400 "invalid page '0': must be a positive integer", service) := by
  intro named stray
  obtain ⟨paged, -, answered⟩ := pages_partition_the_history threeJobs
  have first : Page.Asked (some "+1") 1 :=
    ⟨by decide, @Text.Numeral.signed ['1'] (by decide) (List.forall_mem_singleton.mpr rfl)⟩
  have zero : ∀ number, ¬Page.Asked (some "0") number := by
    rintro number ⟨counted, numeral⟩
    have spelt := @Text.Numeral.plain ['0'] (by decide) (List.forall_mem_singleton.mpr rfl)
    have value := numeral.unique spelt
    exact counted (UInt32.toNat_inj.mp value)
  have asks : named.AsksForPage (some "+1") := by
    refine ⟨rfl, by decide +kernel, ?_⟩
    have pairs : Text.formPairs named.query = [("page", "+1")] := by decide +kernel
    rw [pageOf, pairs]
    rfl
  have strays : stray.AsksForPage (some "0") := by
    refine ⟨rfl, by decide +kernel, ?_⟩
    have pairs : Text.formPairs stray.query = [("page", "0")] := by decide +kernel
    rw [pageOf, pairs]
    rfl
  refine ⟨by decide, paged 2 (by decide), by decide, asks, first, strays, zero,
    fun fresh now => ⟨?_, ?_⟩⟩
  · obtain ⟨jobs, listed, shown⟩ := (answered named _ asks fresh now).1 1 first
    cases listed
    exact shown
  · obtain ⟨text, same, refused⟩ := (answered stray _ strays fresh now).2 zero
    cases same
    exact refused

end Example

end Http

end TicketReports
