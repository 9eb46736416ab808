import Mathlib.Algebra.Group.Nat.Defs
import TicketReports.Access.Request
import TicketReports.Http.Router
import TicketReports.Proofs.Text.Plain

set_option autoImplicit false

namespace TicketReports

namespace Text

theorem hexValue?_hexDigit : ∀ value : Fin 16, hexValue? (hexDigit value) = some value.val := by
  decide

theorem mem_hexDigits {width n : Nat} {c : Char} (member : c ∈ hexDigits width n) :
    ∃ value : Fin 16, c = hexDigit value := by
  induction width generalizing n with
  | zero => cases member
  | succ width ih =>
    rcases List.mem_append.mp member with higher | last
    · exact ih higher
    · exact ⟨⟨n % 16, Nat.mod_lt n (by decide)⟩, List.mem_singleton.mp last⟩

theorem hexDigits_length (width n : Nat) : (hexDigits width n).length = width := by
  induction width generalizing n with
  | zero => rfl
  | succ width ih => rw [hexDigits, List.length_append, ih, List.length_singleton]

theorem hexNumber_hexDigits (width n : Nat) : hexNumber (hexDigits width n) = n % 16 ^ width := by
  induction width generalizing n with
  | zero => rw [Nat.pow_zero, Nat.mod_one]; rfl
  | succ width ih =>
    have last : hexValue? (hexDigit (n % 16)) = some (n % 16) :=
      hexValue?_hexDigit ⟨n % 16, Nat.mod_lt n (by decide)⟩
    have higher : hexNumber (hexDigits width (n / 16)) = n / 16 % 16 ^ width := ih (n / 16)
    rw [hexNumber] at higher
    rw [hexDigits, hexNumber, List.foldl_append, higher, List.foldl_cons, List.foldl_nil, last,
      Nat.pow_succ', Nat.mod_mul]
    simp only [Option.getD_some]
    omega

end Text

namespace JobId

open Text

def digits (id : JobId) : List Char := hexDigits 32 id.bits.toNat

theorem text_toList (id : JobId) : id.text.toList =
    id.digits.take 8 ++ '-' :: ((id.digits.drop 8).take 4 ++ '-' :: ((id.digits.drop 12).take 4 ++
      '-' :: ((id.digits.drop 16).take 4 ++ '-' :: id.digits.drop 20))) := by
  simp [text, digits]

theorem digits_length (id : JobId) : id.digits.length = 32 := hexDigits_length 32 _

theorem mem_digits {id : JobId} {c : Char} (member : c ∈ id.digits) :
    ∃ value : Fin 16, c = hexDigit value :=
  mem_hexDigits member

theorem mem_text {id : JobId} {c : Char} (member : c ∈ id.text.toList) :
    c = '-' ∨ ∃ value : Fin 16, c = hexDigit value := by
  rw [text_toList] at member
  simp only [List.mem_append, List.mem_cons] at member
  rcases member with here | rfl | here | rfl | here | rfl | here | rfl | here
  · exact .inr (mem_digits (List.mem_of_mem_take here))
  · exact .inl rfl
  · exact .inr (mem_digits (List.mem_of_mem_drop (List.mem_of_mem_take here)))
  · exact .inl rfl
  · exact .inr (mem_digits (List.mem_of_mem_drop (List.mem_of_mem_take here)))
  · exact .inl rfl
  · exact .inr (mem_digits (List.mem_of_mem_drop (List.mem_of_mem_take here)))
  · exact .inl rfl
  · exact .inr (mem_digits (List.mem_of_mem_drop here))

theorem text_all {property : Char → Prop} (hyphen : property '-')
    (digit : ∀ value : Fin 16, property (hexDigit value)) (id : JobId) :
    ∀ c ∈ id.text.toList, property c := by
  intro c member
  rcases mem_text member with rfl | ⟨value, rfl⟩
  · exact hyphen
  · exact digit value

theorem plain_text (id : JobId) : ∀ c ∈ id.text.toList, Plain c :=
  id.text_all (by decide) (by decide)

theorem text_length (id : JobId) : id.text.toList.length = 36 := by
  rw [text_toList]
  simp [digits_length]

theorem byteLength_ascii {chars : List Char} (ascii : ∀ c ∈ chars, c.toNat < 128) :
    byteLength chars = chars.length := by
  have sum : ∀ total, chars.foldl (fun total c => total + c.utf8Size) total =
      total + chars.length := by
    induction chars with
    | nil => exact fun _ => rfl
    | cons c rest ih =>
      intro total
      have one : c.utf8Size = 1 := by
        refine Char.utf8Size_eq_one_iff.mpr ?_
        exact UInt32.le_iff_toNat_le.mpr (Nat.le_of_lt_succ (ascii c List.mem_cons_self))
      rw [List.foldl_cons, one, ih fun c later => ascii c (List.mem_cons_of_mem _ later),
        List.length_cons]
      omega
  exact (sum 0).trans (Nat.zero_add _)

theorem scan_digits {group : List Char} (hex : ∀ c ∈ group, ∃ value : Fin 16, c = hexDigit value)
    (offset : Nat) (rest : List Char) :
    scan offset (group ++ rest) = scan (offset + group.length) rest := by
  induction group generalizing offset with
  | nil => rfl
  | cons c group ih =>
    obtain ⟨value, rfl⟩ := hex c List.mem_cons_self
    have digit : ∀ value : Fin 16, hexDigit value ≠ '-' ∧ isHex (hexDigit value) = true := by decide
    rw [List.cons_append, scan, if_neg (digit value).1, if_pos (digit value).2,
      ih fun c later => hex c (List.mem_cons_of_mem _ later), List.length_cons]
    congr 1
    omega

theorem scan_hyphen (offset : Nat) (rest : List Char) :
    scan offset ('-' :: rest) = (scan (offset + 1) rest).map (offset :: ·) := by
  rw [scan, if_pos rfl]

theorem scan_text (id : JobId) : scan 0 id.text.toList = .ok hyphens := by
  have first : ∀ c ∈ id.digits.take 8, ∃ value : Fin 16, c = hexDigit value :=
    fun c member => mem_digits (List.mem_of_mem_take member)
  have middle : ∀ {start size : Nat}, ∀ c ∈ (id.digits.drop start).take size,
      ∃ value : Fin 16, c = hexDigit value :=
    fun c member => mem_digits (List.mem_of_mem_drop (List.mem_of_mem_take member))
  have last : ∀ c ∈ id.digits.drop 20, ∃ value : Fin 16, c = hexDigit value :=
    fun c member => mem_digits (List.mem_of_mem_drop member)
  have tail : ∀ offset, scan offset (id.digits.drop 20) = .ok [] := fun offset => by
    simpa [scan] using scan_digits last offset []
  rw [text_toList, scan_digits first, scan_hyphen, scan_digits middle, scan_hyphen,
    scan_digits middle, scan_hyphen, scan_digits middle, scan_hyphen, tail]
  simp [digits_length, Except.map, hyphens]

theorem filter_text (id : JobId) : id.text.toList.filter (· ≠ '-') = id.digits := by
  have whole : ∀ {group : List Char}, (∀ c ∈ group, c ∈ id.digits) →
      group.filter (· ≠ '-') = group := by
    intro group within
    refine List.filter_eq_self.mpr fun c member => ?_
    obtain ⟨value, rfl⟩ := mem_hexDigits (within c member)
    have digit : ∀ value : Fin 16, decide (hexDigit value ≠ '-') = true := by decide
    exact digit value
  have middle : ∀ {start size : Nat}, ∀ c ∈ (id.digits.drop start).take size, c ∈ id.digits :=
    fun c member => List.mem_of_mem_drop (List.mem_of_mem_take member)
  have parts : ∀ start size, (id.digits.drop start).take size ++ id.digits.drop (start + size) =
      id.digits.drop start := by
    intro start size
    rw [← List.drop_drop, List.take_append_drop]
  rw [text_toList]
  simp only [List.filter_append, List.filter_cons, ne_eq, not_true_eq_false, decide_false,
    Bool.false_eq_true, if_false]
  rw [whole fun c member => List.mem_of_mem_take member, whole middle, whole middle, whole middle,
    whole fun c member => List.mem_of_mem_drop member, parts 16 4, parts 12 4, parts 8 4,
    List.take_append_drop]

theorem read_text (id : JobId) : read id.text = .ok id := by
  have length : byteLength id.text.toList = 36 :=
    (byteLength_ascii fun c member => (id.plain_text c member).1).trans id.text_length
  have bound : id.bits.toNat < 16 ^ 32 := by
    have narrow := id.bits.isLt
    omega
  have number : ofDigits id.digits = id := by
    rw [ofDigits, digits, hexNumber_hexDigits, Nat.mod_eq_of_lt bound, BitVec.ofNat_toNat,
      BitVec.setWidth_eq]
  have hyphenated : readHyphenated id.text.toList = .ok id := by
    rw [readHyphenated, scan_text]
    simp only [id.text_length, and_self, if_true, filter_text, number]
  rw [read, readChars, length]
  simp [hyphenated, Except.mapError]

theorem pathPart?_text (id : JobId) : pathPart? id.text = some id.text :=
  pathPart?_plain id.plain_text

theorem isHeaderText_location {address : String} (valid : isHeaderText address = true)
    (id : JobId) : isHeaderText (address ++ "/jobs/" ++ id.text) = true := by
  have both : ∀ front back : String,
      isHeaderText (front ++ back) = (isHeaderText front && isHeaderText back) := by
    simp [isHeaderText, String.toList_append]
  have text : isHeaderText id.text = true :=
    List.all_eq_true.mpr (id.text_all (by decide) (by decide))
  have path : isHeaderText "/jobs/" = true := by decide
  rw [both, both, valid, path, text]
  rfl

end JobId

end TicketReports
