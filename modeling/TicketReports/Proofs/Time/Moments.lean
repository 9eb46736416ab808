import Mathlib.Algebra.Group.Nat.Defs
import Mathlib.Data.List.Basic
import Mathlib.Data.Set.Function
import TicketReports.Time.Timestamp

set_option autoImplicit false

namespace TicketReports

namespace Text

theorem decimal_toList (width n : Nat) : (decimal width n).toList =
    List.replicate (width - (Nat.toDigits 10 n).length) '0' ++ Nat.toDigits 10 n := by
  rw [decimal, padLeft, String.toList_append, String.toList_ofList, ← String.length_toList,
    Nat.toString_eq_repr, Nat.toList_repr]

theorem isDigit_of_mem_decimal {width n : Nat} {c : Char} (member : c ∈ (decimal width n).toList) :
    c.isDigit = true := by
  rw [decimal_toList] at member
  rcases List.mem_append.mp member with padding | digit
  · rw [List.eq_of_mem_replicate padding]
    decide
  · exact Nat.isDigit_of_mem_toDigits (by decide) (by decide) digit

theorem decimal_length {width n : Nat} (wide : 0 < width) (fits : n < 10 ^ width) :
    (decimal width n).toList.length = width := by
  have digits : (Nat.toDigits 10 n).length ≤ width :=
    (Nat.length_toDigits_le_iff (by decide) wide).mpr fits
  rw [decimal_toList, List.length_append, List.length_replicate]
  omega

theorem decimal_injective (width : Nat) : Function.Injective (decimal width) := by
  have read : ∀ n, Nat.ofDigitChars 10 (decimal width n).toList 0 = n := fun n => by
    rw [decimal_toList, Nat.ofDigitChars_append, Nat.ofDigitChars_replicate_zero, Nat.mul_zero,
      Nat.ofDigitChars_toDigits (by decide) (by decide)]
  intro n m same
  rw [← read n, same, read m]

end Text

namespace Date

-- The year, counted from March, that the day of an era is in.
def yearIn (day : Nat) : Nat := (day - day / 1460 + day / 36524 - day / 146096) / 365

def daysBefore (year : Nat) : Nat := 365 * year + year / 4 - year / 100

theorem yearIn_lt {day : Nat} (within : day < 146097) : yearIn day < 400 := by
  unfold yearIn
  omega

theorem centuries_le {day : Nat} (within : day < 146097) :
    day / 36524 ≤ yearIn day / 100 + day / 146096 := by
  by_cases last : day = 146096
  · subst last
    decide
  · have early : day / 146096 = 0 := by omega
    have century : day / 36524 = 0 ∨ day / 36524 = 1 ∨ day / 36524 = 2 ∨ day / 36524 = 3 := by
      omega
    rw [early, Nat.add_zero, yearIn, early, Nat.le_div_iff_mul_le (by decide),
      Nat.le_div_iff_mul_le (by decide)]
    rcases century with zero | one | two | three
    · rw [zero]; omega
    · rw [one]; omega
    · rw [two]; omega
    · rw [three]; omega

theorem daysBefore_le {day : Nat} (within : day < 146097) : daysBefore (yearIn day) ≤ day := by
  have centuries := centuries_le within
  have leapDays : 365 * yearIn day + day / 1460 + day / 146096 ≤ day + day / 36524 := by
    unfold yearIn
    omega
  unfold daysBefore
  -- From here on it matters only how the two quotients bound each other.
  generalize yearIn day = year at *
  generalize fulls : day / 36524 = full at *
  generalize lasts : day / 146096 = last at *
  clear fulls lasts
  omega

theorem le_daysBefore {day : Nat} (within : day < 146097) :
    day ≤ daysBefore (yearIn day) + 366 := by
  have centuries := centuries_le within
  have leapDays : day + day / 36524 < 365 * yearIn day + day / 1460 + day / 146096 + 365 := by
    unfold yearIn
    omega
  unfold daysBefore
  generalize yearIn day = year at *
  generalize fulls : day / 36524 = full at *
  generalize lasts : day / 146096 = last at *
  omega

def monthOf (march : Nat) : Nat := if march < 10 then march + 3 else march - 9

theorem ofDays_era (era : Int) {day ofYear march : Nat} (within : day < 146097)
    (inYear : day - daysBefore (yearIn day) = ofYear) (inMonth : (5 * ofYear + 2) / 153 = march) :
    ofDays (era * 146097 + day - 719468) =
      { year := era * 400 + yearIn day + (if monthOf march ≤ 2 then 1 else 0)
        month := monthOf march
        day := ofYear - (153 * march + 2) / 5 + 1 } := by
  subst inYear inMonth
  have shifted : era * 146097 + (day : Int) - 719468 + 719468 = era * 146097 + day := by omega
  have number : (era * 146097 + (day : Int)) / 146097 = era := by omega
  have rest : (era * 146097 + (day : Int) - era * 146097).toNat = day := by omega
  simp only [ofDays, shifted, number, rest]
  rfl

theorem toDays_march (era : Int) {year march : Nat} (inEra : year < 400) (known : march ≤ 11)
    (day : Nat) :
    toDays
      { year := era * 400 + year + (if monthOf march ≤ 2 then 1 else 0)
        month := monthOf march
        day := day + 1 } =
      era * 146097 + (daysBefore year + ((153 * march + 2) / 5 + day) : Nat) - 719468 := by
  have number : (era * 400 + (year : Int)) / 400 = era := by omega
  have rest : era * 400 + (year : Int) - era * 400 = year := by omega
  by_cases sameYear : march < 10
  · have month : monthOf march = march + 3 := if_pos sameYear
    have late : ¬ march + 3 ≤ 2 := by omega
    simp only [toDays, month, if_neg late, if_pos (Nat.lt_of_not_le late), Int.add_zero, number,
      rest, Nat.add_sub_cancel, daysBefore]
    omega
  · have month : monthOf march = march - 9 := if_neg sameYear
    have early : march - 9 ≤ 2 := by omega
    have back : march - 9 + 9 = march := by omega
    simp only [toDays, month, if_pos early, if_neg (Nat.not_lt_of_le early), Int.add_sub_cancel,
      number, rest, back, daysBefore]
    omega

theorem exists_era (days : Int) :
    ∃ (era : Int) (day : Nat), day < 146097 ∧ days = era * 146097 + day - 719468 :=
  ⟨(days + 719468) / 146097, ((days + 719468) % 146097).toNat, by omega, by omega⟩

theorem ofDays_le (days : Int) : (ofDays days).month ≤ 12 ∧ (ofDays days).day ≤ 31 := by
  obtain ⟨era, day, within, rfl⟩ := exists_era days
  have ended := le_daysBefore within
  rw [ofDays_era era within rfl rfl]
  simp only [monthOf]
  constructor
  · split <;> omega
  · omega

theorem toDays_ofDays (days : Int) : (ofDays days).toDays = days := by
  obtain ⟨era, day, within, rfl⟩ := exists_era days
  have started := daysBefore_le within
  have ended := le_daysBefore within
  obtain ⟨ofYear, inYear⟩ : ∃ ofYear, day - daysBefore (yearIn day) = ofYear := ⟨_, rfl⟩
  obtain ⟨march, inMonth⟩ : ∃ march, (5 * ofYear + 2) / 153 = march := ⟨_, rfl⟩
  rw [ofDays_era era within inYear inMonth, toDays_march era (yearIn_lt within) (by omega)]
  have monthStarted : (153 * march + 2) / 5 ≤ ofYear := by omega
  omega

theorem ofDays_injective : Function.Injective ofDays :=
  Function.LeftInverse.injective toDays_ofDays

end Date

namespace Timestamp

open Text

theorem digits_of_yearText (year : Int) :
    (yearText year).toList.filter Char.isDigit = (decimal 4 year.natAbs).toList := by
  have digits : (decimal 4 year.natAbs).toList.filter Char.isDigit =
      (decimal 4 year.natAbs).toList :=
    List.filter_eq_self.mpr fun c member => isDigit_of_mem_decimal member
  unfold yearText
  split
  next within =>
    have size : year.toNat = year.natAbs := by omega
    rw [size, digits]
  next =>
    have sign : (if year < 0 then "-" else "+").toList.filter Char.isDigit = [] := by
      split <;> decide
    rw [String.toList_append, List.filter_append, sign, digits, List.nil_append]

theorem minus_mem_yearText {year : Int} : '-' ∈ (yearText year).toList ↔ year < 0 := by
  have unsigned : ∀ {n : Nat}, '-' ∉ (decimal 4 n).toList := fun member =>
    absurd (isDigit_of_mem_decimal member) (by decide)
  unfold yearText
  split
  next within => exact iff_of_false unsigned (by omega)
  next =>
    rw [String.toList_append, List.mem_append, or_iff_left unsigned]
    split
    next negative => exact iff_of_true (by decide) negative
    next positive => exact iff_of_false (by decide) positive

theorem yearText_injective : Function.Injective yearText := by
  intro a b same
  have size : a.natAbs = b.natAbs := by
    refine decimal_injective 4 (String.toList_injective ?_)
    rw [← digits_of_yearText, same, digits_of_yearText]
  have sign : a < 0 ↔ b < 0 := by rw [← minus_mem_yearText, same, minus_mem_yearText]
  omega

theorem decimal_append_inj {width n m : Nat} {left right : List Char} (wide : 0 < width)
    (fits : n < 10 ^ width) (fits' : m < 10 ^ width)
    (same : (decimal width n).toList ++ left = (decimal width m).toList ++ right) :
    n = m ∧ left = right := by
  have lengths : (decimal width n).toList.length = (decimal width m).toList.length := by
    rw [decimal_length wide fits, decimal_length wide fits']
  obtain ⟨number, rest⟩ := List.append_inj same lengths
  exact ⟨decimal_injective width (String.toList_injective number), rest⟩

theorem dateText_toList (date : Date) : (dateText date).toList = (yearText date.year).toList ++
    '-' :: ((decimal 2 date.month).toList ++ '-' :: (decimal 2 date.day).toList) := by
  simp [dateText]

theorem dateText_inj {a b : Date} (fits : a.month < 100 ∧ a.day < 100)
    (fits' : b.month < 100 ∧ b.day < 100) (same : dateText a = dateText b) : a = b := by
  have text := congrArg String.toList same
  rw [dateText_toList, dateText_toList] at text
  obtain ⟨years, rest⟩ := List.append_inj' text (by
    simp [decimal_length, fits.1, fits.2, fits'.1, fits'.2])
  obtain ⟨months, rest⟩ := decimal_append_inj (by decide) fits.1 fits'.1 (List.cons.inj rest).2
  have days := decimal_injective 2 (String.toList_injective (List.cons.inj rest).2)
  show Date.mk a.year a.month a.day = Date.mk b.year b.month b.day
  rw [yearText_injective (String.toList_injective years), months, days]

theorem fractionText_cases {nanos : Nat} (within : nanos < 1000000000) :
    nanos = 0 ∧ fractionText nanos = "" ∨ ∃ width n, 0 < width ∧ n < 10 ^ width ∧
      nanos = n * 10 ^ (9 - width) ∧ fractionText nanos = "." ++ decimal width n := by
  unfold fractionText
  split
  next zero => exact .inl ⟨zero, rfl⟩
  next =>
    split
    next => exact .inr ⟨3, nanos / 1000000, by omega, by omega, by omega, rfl⟩
    next =>
      split
      next => exact .inr ⟨6, nanos / 1000, by omega, by omega, by omega, rfl⟩
      next => exact .inr ⟨9, nanos, by omega, by omega, by omega, rfl⟩

theorem fractionText_inj {a b : Nat} (within : a < 1000000000) (within' : b < 1000000000)
    (same : fractionText a = fractionText b) : a = b := by
  rcases fractionText_cases within with ⟨rfl, none⟩ | ⟨width, n, wide, fits, rfl, text⟩
  · rcases fractionText_cases within' with ⟨rfl, _⟩ | ⟨width', m, _, _, _, text'⟩
    · rfl
    · rw [none, text'] at same
      simpa using congrArg String.toList same
  · rcases fractionText_cases within' with ⟨rfl, none⟩ | ⟨width', m, wide', fits', rfl, text'⟩
    · rw [text, none] at same
      simpa using congrArg String.toList same
    · rw [text, text'] at same
      have digits : (decimal width n).toList = (decimal width' m).toList := by
        simpa using congrArg String.toList same
      have widths : width = width' := by
        rw [← decimal_length wide fits, digits, decimal_length wide' fits']
      subst widths
      rw [decimal_injective width (String.toList_injective digits)]

/-- Seconds have fewer than 10^9 nanoseconds; a leap second only follows the last second of a
minute. -/
def Valid (t : Timestamp) : Prop :=
  t.nanos < 1000000000 ∨ t.nanos < 2000000000 ∧ t.seconds % 60 = 59

instance (t : Timestamp) : Decidable t.Valid := by unfold Valid; infer_instance

theorem clockText_toList (t : Timestamp) : t.clockText.toList =
    (decimal 2 (t.secondOfDay / 3600)).toList ++
      ':' :: ((decimal 2 (t.secondOfDay / 60 % 60)).toList ++
        ':' :: ((decimal 2 (t.secondOfDay % 60 + t.nanos / 1000000000)).toList ++
          (fractionText (t.nanos % 1000000000)).toList)) := by
  simp [clockText]

theorem secondOfDay_lt (t : Timestamp) : t.secondOfDay < 86400 := by
  unfold secondOfDay
  omega

theorem Valid.leap {t : Timestamp} (valid : t.Valid) :
    t.nanos / 1000000000 = 0 ∨ t.nanos / 1000000000 = 1 ∧ t.secondOfDay % 60 = 59 := by
  unfold Valid at valid
  unfold secondOfDay
  omega

theorem clockText_inj {a b : Timestamp} (valid : a.Valid) (valid' : b.Valid)
    (same : a.clockText = b.clockText) : a.secondOfDay = b.secondOfDay ∧ a.nanos = b.nanos := by
  have inDay := a.secondOfDay_lt
  have inDay' := b.secondOfDay_lt
  have leap := valid.leap
  have leap' := valid'.leap
  have text := congrArg String.toList same
  rw [clockText_toList, clockText_toList] at text
  obtain ⟨hours, rest⟩ := decimal_append_inj (by decide) (by omega) (by omega) text
  obtain ⟨minutes, rest⟩ :=
    decimal_append_inj (by decide) (by omega) (by omega) (List.cons.inj rest).2
  obtain ⟨seconds, rest⟩ :=
    decimal_append_inj (by decide) (by omega) (by omega) (List.cons.inj rest).2
  have fractions : a.nanos % 1000000000 = b.nanos % 1000000000 :=
    fractionText_inj (by omega) (by omega) (String.toList_injective rest)
  omega

theorem T_not_mem_decimal {width n : Nat} : 'T' ∉ (decimal width n).toList := fun member =>
  absurd (isDigit_of_mem_decimal member) (by decide)

theorem T_not_mem_dateText (date : Date) : 'T' ∉ (dateText date).toList := by
  have year : 'T' ∉ (yearText date.year).toList := by
    unfold yearText
    split
    next => exact T_not_mem_decimal
    next =>
      rw [String.toList_append, List.mem_append, or_iff_left T_not_mem_decimal]
      split <;> decide
  simp [dateText_toList, T_not_mem_decimal, year]

theorem T_not_mem_clockText (t : Timestamp) : 'T' ∉ t.clockText.toList := by
  have fraction : 'T' ∉ (fractionText (t.nanos % 1000000000)).toList := by
    rcases fractionText_cases (Nat.mod_lt t.nanos (by decide)) with
      ⟨_, none⟩ | ⟨width, n, _, _, _, digits⟩
    · rw [none]
      decide
    · rw [digits, String.toList_append, List.mem_append, or_iff_left T_not_mem_decimal]
      decide
  simp [clockText_toList, T_not_mem_decimal, fraction]

theorem rfc3339_toList (t : Timestamp) : t.rfc3339.toList =
    (dateText t.date).toList ++ 'T' :: (t.clockText.toList ++ "+00:00".toList) := by
  simp [rfc3339, rfc3339With]

theorem rfc3339_injOn : Set.InjOn rfc3339 {t | t.Valid} := by
  intro a valid b valid' same
  have fits : ∀ t : Timestamp, t.date.month < 100 ∧ t.date.day < 100 := by
    intro t
    obtain ⟨month, day⟩ := Date.ofDays_le (t.seconds / 86400)
    exact ⟨Nat.lt_of_le_of_lt month (by decide), Nat.lt_of_le_of_lt day (by decide)⟩
  have once : 'T' ∉ a.clockText.toList ++ "+00:00".toList := by
    rw [List.mem_append, or_iff_right (T_not_mem_clockText a)]
    decide
  have text := congrArg String.toList same
  rw [rfc3339_toList, rfc3339_toList,
    List.append_cons_inj_of_notMem (T_not_mem_dateText _) once] at text
  obtain ⟨dates, -, clocks⟩ := text
  have days : a.seconds / 86400 = b.seconds / 86400 :=
    Date.ofDays_injective (dateText_inj (fits a) (fits b) (String.toList_injective dates))
  obtain ⟨seconds, nanos⟩ := clockText_inj valid valid'
    (String.toList_injective (List.append_cancel_right clocks))
  unfold secondOfDay at seconds
  have moment : a.seconds = b.seconds := by omega
  exact congrArg₂ Timestamp.mk moment nanos

example : rfc3339 ⟨1483228799, 1000000000⟩ = "2016-12-31T23:59:60+00:00" := by decide +kernel

end Timestamp

end TicketReports
