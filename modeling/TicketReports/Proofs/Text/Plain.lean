import Mathlib.Data.List.Basic
import TicketReports.Proofs.Text.Utf8

set_option autoImplicit false

namespace TicketReports.Text

def Plain (c : Char) : Prop := c.toNat < 128 ∧ c ≠ '%'

instance : DecidablePred Plain := fun c => inferInstanceAs (Decidable (c.toNat < 128 ∧ c ≠ '%'))

theorem bytesOf_ascii {chars : List Char} (ascii : ∀ c ∈ chars, c.toNat < 128) :
    bytesOf (String.ofList chars) = chars.map fun c => UInt8.ofNat c.toNat := by
  rw [bytesOf_eq, String.toList_ofList]
  induction chars with
  | nil => rfl
  | cons c rest ih =>
    have single : String.utf8EncodeChar c = [UInt8.ofNat c.toNat] := by
      refine String.utf8EncodeChar_eq_singleton (Char.utf8Size_eq_one_iff.mpr ?_)
      exact UInt32.le_iff_toNat_le.mpr (Nat.le_of_lt_succ (ascii c List.mem_cons_self))
    rw [List.flatMap_cons, single, ih fun c later => ascii c (List.mem_cons_of_mem _ later)]
    rfl

theorem percentDecode_plain {bytes : List UInt8} (plain : 0x25 ∉ bytes) :
    percentDecode bytes = bytes := by
  fun_induction percentDecode bytes with
  | case1 high low rest byte pair ih => exact absurd List.mem_cons_self plain
  | case2 high low rest pair ih => exact absurd List.mem_cons_self plain
  | case3 byte rest other ih => rw [ih fun later => plain (List.mem_cons_of_mem _ later)]
  | case4 => rfl

theorem pathPart?_plain {text : String} (plain : ∀ c ∈ text.toList, Plain c) :
    pathPart? text = some text := by
  have bytes : bytesOf text = text.toList.map fun c => UInt8.ofNat c.toNat := by
    rw [← bytesOf_ascii fun c member => (plain c member).1, String.ofList_toList]
  have unescaped : 0x25 ∉ bytesOf text := by
    rw [bytes]
    rintro escaped
    obtain ⟨c, member, same⟩ := List.mem_map.mp escaped
    obtain ⟨small, other⟩ := plain c member
    have number : c.toNat % 256 = 0x25 := congrArg UInt8.toNat same
    exact other (Char.toNat_inj.mp (show c.toNat = 0x25 by omega))
  rw [pathPart?, percentDecode_plain unescaped, Utf8.read?_bytesOf, Option.map_some,
    String.ofList_toList]

end TicketReports.Text
