import Mathlib.Algebra.Ring.Int.Defs
import TicketReports.Proofs.JobStore.Succession

set_option autoImplicit false

namespace TicketReports

namespace Page

def before (page : Page) : Nat := (page.number.toNat - 1) * page.size.toNat

theorem new_self (page : Page) : new page.number page.size = .ok page := by
  rw [new, dif_neg page.number_ne, dif_neg page.size_ne]

theorem before_lt (page : Page) : page.before < 2 ^ 64 := by
  have number := page.number.toNat_lt
  have size := page.size.toNat_lt
  have fewer : page.before ≤ 2 ^ 32 * page.size.toNat := Nat.mul_le_mul_right _ (by omega)
  omega

theorem offset_toNat (page : Page) : page.offset.toNat = page.before := by
  have positive : 1 ≤ page.number := by
    rw [UInt32.le_iff_toNat_le]
    have nonzero := mt UInt32.toNat_inj.mp page.number_ne
    simp at nonzero ⊢
    omega
  rw [offset, UInt64.toNat_mul, UInt32.toNat_toUInt64, UInt32.toNat_toUInt64,
    UInt32.toNat_sub_of_le _ _ positive]
  exact Nat.mod_eq_of_lt page.before_lt

end Page

namespace Archive

open Sql

variable {S : Type} [Server S]

theorem signed_toInt_of_le {word : UInt64} (large : 2 ^ 63 ≤ word.toNat) :
    (signed word).toInt = word.toNat - 2 ^ 64 := by
  have below := word.toNat_lt
  have same : word.toBitVec.toNat = word.toNat := rfl
  change word.toBitVec.toInt = _
  simp only [BitVec.toInt_eq_toNat_cond, same]
  split <;> omega

theorem signed_offset (page : Page) : (signed page.offset).toInt =
    if page.before < 2 ^ 63 then (page.before : Int) else page.before - 2 ^ 64 := by
  rw [← page.offset_toNat]
  split
  next small => exact signed_toInt small
  next large => exact signed_toInt_of_le (by omega)

theorem windowed_negative {page : Page} (large : 2 ^ 63 ≤ page.before) (rows : List Row) :
    Table.windowed .page (window page) rows =
      .error (.refused "2201X" "OFFSET must not be negative") := by
  have placed : signed page.offset < 0 := by
    have below := page.before_lt
    rw [Int64.lt_iff_toInt_lt, signed_offset, if_neg (by omega)]
    simp
    omega
  rw [window, Table.windowed, if_neg (limit_not_neg page), if_pos placed]

/-- A page is found just if the number of jobs before it fits a signed word; else the server is told
a negative number and refuses. -/
theorem page_is_found_iff_addressable (page : Page) :
    Page.new page.number page.size = .ok page ∧
      (∀ history : History, JobStore.list page history =
        (.ok ((history.jobs.reverse.drop page.before).take page.size.toNat), history)) ∧
      ∃ limit offset : Int64,
        (∀ archive : Archive S, JobStore.list page archive =
          Prod.map everyJob id (archive.execute "list_jobs"
            { statement := .select .everything .newestFirst .page
              parameters := [.integer limit, .integer offset] })) ∧
        limit.toInt = page.size.toNat ∧
        (0 ≤ offset.toInt ∧ offset.toInt = page.before ↔ page.before < 2 ^ 63) ∧
        offset.toInt = (if page.before < 2 ^ 63 then (page.before : Int)
          else page.before - 2 ^ 64) ∧
        ∀ rows, Table.windowed .page [.integer limit, .integer offset] rows =
          if page.before < 2 ^ 63 then .ok ((rows.drop page.before).take page.size.toNat)
          else .error (.refused "2201X" "OFFSET must not be negative") := by
  have told := signed_offset page
  refine ⟨page.new_self, fun history => ?_, Int64.ofInt page.size.toNat, signed page.offset,
    fun archive => rfl, limit_toInt page, ?_, told, fun rows => ?_⟩
  · rw [← page.offset_toNat]
    rfl
  · have below := page.before_lt
    rw [told]
    split <;> omega
  · split
    next small =>
      have cut := windowed_page (page.offset_toNat ▸ small) rows
      rw [Page.window, page.offset_toNat] at cut
      exact cut
    next large => exact windowed_negative (by omega) rows

/-- The last page of the largest size is asked for by a negative offset. -/
theorem last_page_is_refused : ∃ page, Page.new 4294967295 4294967295 = .ok page ∧
    page.before = 18446744060824649730 ∧
    window page = [.integer 4294967295, .integer (-12884901886)] ∧
    (JobStore.list page ({ server := {} } : Archive Table)).1 =
      .error (.storage "database error in list_jobs: OFFSET must not be negative") ∧
    (JobStore.list page (History.withCapacity 1)).1 = .ok [] := by
  refine ⟨⟨4294967295, 4294967295, by decide, by decide⟩, ?_⟩
  decide

end Archive

end TicketReports
