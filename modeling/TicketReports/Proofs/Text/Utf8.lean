import Mathlib.Data.List.Basic
import TicketReports.Text.Percent

set_option autoImplicit false

namespace TicketReports.Text

theorem byteArray_toList (bytes : ByteArray) : bytes.toList = bytes.data.toList := by
  have loop : ∀ index read, ByteArray.toList.loop bytes index read =
      read.reverse ++ bytes.data.toList.drop index := by
    intro index read
    fun_induction ByteArray.toList.loop bytes index read with
    | case1 index read inside ih =>
      have within : index < bytes.data.toList.length := inside
      have here : bytes.get! index = bytes.data.toList[index] :=
        getElem!_pos bytes.data index (by simpa using within)
      rw [ih, List.drop_eq_getElem_cons within, here, List.reverse_cons, List.append_assoc,
        List.singleton_append]
    | case2 index read past =>
      have beyond : bytes.data.toList.length ≤ index := Nat.le_of_not_lt past
      rw [List.drop_eq_nil_of_le beyond, List.append_nil]
  exact loop 0 []

theorem bytesOf_eq (text : String) : bytesOf text = text.toList.flatMap String.utf8EncodeChar := by
  conv => lhs; rw [← String.ofList_toList (s := text)]
  rw [bytesOf, byteArray_toList, String.toUTF8, String.toByteArray_ofList, List.utf8Encode,
    List.data_toByteArray, List.toList_toArray]

namespace Utf8

/-- The bytes complete the character, of which those before them have left the machine waiting. -/
inductive Awaits (c : Char) : Pending → List UInt8 → Prop where
  | last {p : Pending} {byte : UInt8} (inside : p.low ≤ byte.toNat ∧ byte.toNat ≤ p.high)
    (single : p.missing = 1) (whole : p.code * 64 + (byte.toNat - 0x80) = c.toNat) :
    Awaits c p [byte]
  | more {p : Pending} {byte : UInt8} {later : List UInt8}
    (inside : p.low ≤ byte.toNat ∧ byte.toNat ≤ p.high) (several : 1 < p.missing)
    (rest : Awaits c
      { code := p.code * 64 + (byte.toNat - 0x80), missing := p.missing - 1
        low := 0x80, high := 0xBF } later) :
    Awaits c p (byte :: later)

section Characters

variable {c : Char}

theorem Awaits.decode {p : Pending} {bytes : List UInt8} (awaits : Awaits c p bytes)
    (rest : List UInt8) :
    decodeFrom (some p) (bytes ++ rest) = some c :: decodeFrom none rest := by
  induction awaits with
  | last inside single whole =>
    simp [decodeFrom, next, inside, single, whole]
  | @more p byte later inside several _ ih =>
    have goesOn : ¬p.missing ≤ 1 := Nat.not_le_of_lt several
    simpa [decodeFrom, next, inside, goesOn] using ih

theorem Awaits.decode_take {p : Pending} {bytes : List UInt8} (awaits : Awaits c p bytes) {n : Nat}
    (short : n < bytes.length) : decodeFrom (some p) (bytes.take n) = [none] := by
  induction awaits generalizing n with
  | last =>
    -- Cut off before its last byte: the machine is left waiting at the end.
    have nothing : n = 0 := by simpa using short
    simp [nothing, decodeFrom]
  | @more p byte later inside several _ ih =>
    cases n with
    | zero => simp [decodeFrom]
    | succ n =>
      have goesOn : ¬p.missing ≤ 1 := Nat.not_le_of_lt several
      simpa [decodeFrom, next, inside, goesOn] using ih (Nat.lt_of_succ_lt_succ short)

inductive Spelled (c : Char) : List UInt8 → Prop where
  | ascii {byte : UInt8} (small : byte.toNat < 0x80) (same : byte.toNat = c.toNat) :
    Spelled c [byte]
  | longer {byte : UInt8} {p : Pending} {later : List UInt8}
    (leads : first byte.toNat = ([], some p)) (rest : Awaits c p later) : Spelled c (byte :: later)

theorem byte_toNat {n : Nat} (small : n < 256) : (UInt8.ofNat n).toNat = n := by
  rw [UInt8.toNat_ofNat']
  exact Nat.mod_eq_of_lt small

theorem later_toNat (n : Nat) : (UInt8.ofNat (n % 0x40 + 0x80)).toNat = n % 0x40 + 0x80 :=
  byte_toNat (by omega)

theorem first_two {n : Nat} (low : 2 ≤ n) (high : n < 0x20) :
    first (n + 0xC0) = ([], some { code := n, missing := 1, low := 0x80, high := 0xBF }) := by
  have ascii : ¬n + 0xC0 < 0x80 := by omega
  have two : 0xC2 ≤ n + 0xC0 ∧ n + 0xC0 ≤ 0xDF := by omega
  rw [first, if_neg ascii, if_pos two, Nat.add_sub_cancel]

theorem first_three {n : Nat} (high : n < 0x10) :
    first (n + 0xE0) = ([], some
      { code := n, missing := 2, low := if n = 0 then 0xA0 else 0x80
        high := if n = 0xD then 0x9F else 0xBF }) := by
  have ascii : ¬n + 0xE0 < 0x80 := by omega
  have two : ¬(0xC2 ≤ n + 0xE0 ∧ n + 0xE0 ≤ 0xDF) := by omega
  have three : 0xE0 ≤ n + 0xE0 ∧ n + 0xE0 ≤ 0xEF := by omega
  rw [first, if_neg ascii, if_neg two, if_pos three, Nat.add_sub_cancel]
  simp

theorem first_four {n : Nat} (high : n < 5) :
    first (n + 0xF0) = ([], some
      { code := n, missing := 3, low := if n = 0 then 0x90 else 0x80
        high := if n = 4 then 0x8F else 0xBF }) := by
  have ascii : ¬n + 0xF0 < 0x80 := by omega
  have two : ¬(0xC2 ≤ n + 0xF0 ∧ n + 0xF0 ≤ 0xDF) := by omega
  have three : ¬(0xE0 ≤ n + 0xF0 ∧ n + 0xF0 ≤ 0xEF) := by omega
  have four : 0xF0 ≤ n + 0xF0 ∧ n + 0xF0 ≤ 0xF4 := by omega
  rw [first, if_neg ascii, if_neg two, if_neg three, if_pos four, Nat.add_sub_cancel]
  simp

theorem spelled (c : Char) : Spelled c (String.utf8EncodeChar c) := by
  have same : c.toNat = c.val.toNat := rfl
  have valid : c.val.toNat < 0xD800 ∨ 0xDFFF < c.val.toNat ∧ c.val.toNat < 0x110000 := c.valid
  rw [String.utf8EncodeChar]
  generalize c.val.toNat = code at same valid
  split
  next small =>
    have byte : (UInt8.ofNat code).toNat = code := byte_toNat (by omega)
    exact .ascii (by omega) (by omega)
  next large =>
    split
    next small =>
      have lead : (UInt8.ofNat (code / 64 % 0x20 + 0xC0)).toNat = code / 64 + 0xC0 := by
        rw [byte_toNat] <;> omega
      have final := later_toNat code
      refine .longer (lead ▸ first_two (by omega) (by omega)) (.last ?_ rfl ?_)
      all_goals
        dsimp only
        omega
    next larger =>
      split
      next small =>
        have lead : (UInt8.ofNat (code / 4096 % 0x10 + 0xE0)).toNat = code / 4096 + 0xE0 := by
          rw [byte_toNat] <;> omega
        have middle := later_toNat (code / 64)
        have final := later_toNat code
        refine .longer (lead ▸ first_three (by omega)) (.more ?_ (by simp) (.last ?_ rfl ?_))
        · -- Neither a longer spelling of a small code nor a surrogate.
          dsimp only
          split <;> split <;> omega
        all_goals
          dsimp only
          omega
      next largest =>
        have lead : (UInt8.ofNat (code / 262144 % 0x08 + 0xF0)).toNat =
            code / 262144 + 0xF0 := by
          rw [byte_toNat] <;> omega
        have second := later_toNat (code / 4096)
        have third := later_toNat (code / 64)
        have final := later_toNat code
        refine .longer (lead ▸ first_four (by omega))
          (.more ?_ (by simp) (.more ?_ (by simp) (.last ?_ rfl ?_)))
        · -- Neither a longer spelling of a small code nor one beyond the last character.
          dsimp only
          split <;> split <;> omega
        all_goals
          dsimp only
          omega

theorem decode_char_append (c : Char) (rest : List UInt8) :
    decode (String.utf8EncodeChar c ++ rest) = some c :: decode rest := by
  -- Only how the bytes spell the character counts, not how they are computed.
  have spelling := spelled c
  generalize String.utf8EncodeChar c = bytes at spelling ⊢
  cases spelling with
  | @ascii byte small same =>
    have whole : next none byte.toNat = ([some c], none) := by
      rw [next, first, if_pos small, same, Char.ofNat_toNat]
    simp [decode, decodeFrom, whole]
  | longer leads awaits => simpa [decode, decodeFrom, next, leads] using awaits.decode rest

theorem decode_char_take (c : Char) {n : Nat} (begun : n ≠ 0)
    (short : n < (String.utf8EncodeChar c).length) :
    decode ((String.utf8EncodeChar c).take n) = [none] := by
  obtain ⟨n, rfl⟩ := Nat.exists_eq_succ_of_ne_zero begun
  have spelling := spelled c
  generalize String.utf8EncodeChar c = bytes at spelling short ⊢
  cases spelling with
  | ascii => simp at short
  | longer leads awaits =>
    simpa [decode, decodeFrom, next, leads] using awaits.decode_take (Nat.lt_of_succ_lt_succ short)

end Characters

section Texts

theorem decode_encoded (chars : List Char) :
    decode (chars.flatMap String.utf8EncodeChar) = chars.map some := by
  induction chars with
  | nil => rfl
  | cons c later ih => rw [List.flatMap_cons, decode_char_append, ih, List.map_cons]

theorem decode_encoded_take (chars : List Char) {n : Nat}
    (short : n < (chars.flatMap String.utf8EncodeChar).length) :
    ∃ kept c later, chars = kept ++ c :: later ∧
      (kept.flatMap String.utf8EncodeChar).length ≤ n ∧
      n < (kept.flatMap String.utf8EncodeChar).length + c.utf8Size ∧
      decode ((chars.flatMap String.utf8EncodeChar).take n) =
        kept.map some ++
          if (kept.flatMap String.utf8EncodeChar).length = n then [] else [none] := by
  induction chars generalizing n with
  | nil => simp at short
  | cons c later ih =>
    rw [List.flatMap_cons] at short ⊢
    by_cases inside : n < (String.utf8EncodeChar c).length
    · -- The cut is in the first character, or before it.
      refine ⟨[], c, later, rfl, Nat.zero_le n, by simpa using inside, ?_⟩
      rw [List.take_append_of_le_length (Nat.le_of_lt inside)]
      by_cases nothing : n = 0
      · simp [nothing, decode, decodeFrom]
      · simp [decode_char_take c nothing inside, Ne.symm nothing]
    · -- The first character is whole, and the cut is as far into the rest as is left after it.
      have reached := Nat.le_of_not_lt inside
      rw [List.length_append] at short
      obtain ⟨kept, cut, rest, split, before, beyond, read⟩ :=
        ih (n := n - (String.utf8EncodeChar c).length) (by omega)
      refine ⟨c :: kept, cut, rest, by rw [split, List.cons_append], ?_, ?_, ?_⟩
      · rw [List.flatMap_cons, List.length_append]
        omega
      · rw [List.flatMap_cons, List.length_append]
        omega
      · have same : (String.utf8EncodeChar c).length +
            (kept.flatMap String.utf8EncodeChar).length = n ↔
            (kept.flatMap String.utf8EncodeChar).length =
              n - (String.utf8EncodeChar c).length := by
          omega
        rw [List.take_append, List.take_of_length_le reached, decode_char_append, read,
          List.flatMap_cons, List.length_append]
        simp only [same, List.map_cons, List.cons_append]

theorem length_bytesOf (text : String) : (bytesOf text).length = text.utf8ByteSize := by
  rw [bytesOf, byteArray_toList]
  rfl

theorem read?_bytesOf (text : String) : read? (bytesOf text) = some text.toList := by
  rw [read?, bytesOf_eq, decode_encoded]
  induction text.toList with
  | nil => rfl
  | cons c rest ih => simp [ih]

theorem lossy_bytesOf (text : String) : lossy (bytesOf text) = text := by
  rw [lossy, bytesOf_eq, decode_encoded, List.map_map]
  simp [Function.comp_def]

theorem lossy_bytesOf_take (text : String) {n : Nat} (short : n < text.utf8ByteSize) :
    ∃ kept c later, text = kept ++ String.singleton c ++ later ∧ kept.utf8ByteSize ≤ n ∧
      n < kept.utf8ByteSize + c.utf8Size ∧
      lossy ((bytesOf text).take n) = if kept.utf8ByteSize = n then kept else kept ++ "\ufffd" := by
  rw [← length_bytesOf, bytesOf_eq] at short
  obtain ⟨kept, c, later, split, before, beyond, read⟩ := decode_encoded_take text.toList short
  have size : (String.ofList kept).utf8ByteSize =
      (kept.flatMap String.utf8EncodeChar).length := by
    rw [← length_bytesOf, bytesOf_eq, String.toList_ofList]
  refine ⟨String.ofList kept, c, String.ofList later, ?_, size ▸ before, size ▸ beyond, ?_⟩
  · apply String.toList_injective
    simp [split]
  · rw [lossy, bytesOf_eq, read, size]
    split <;> simp [String.ofList_append, Function.comp_def]

end Texts

end Utf8

end TicketReports.Text
