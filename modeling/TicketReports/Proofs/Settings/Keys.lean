import TicketReports.Proofs.Failing
import TicketReports.Proofs.Text.Numeral
import TicketReports.Settings.Basic

set_option autoImplicit false

namespace TicketReports

namespace Settings

inductive Part where
  | text (value : String)
  | secret (value : Option String)
  | count (value : Nat)
  | time (value : Duration)
  | addresses (value : List String)
  deriving DecidableEq

def part (settings : Settings) : Key → Part
  | .bindAddress => .text settings.bindAddress
  | .externalAddress => .text settings.externalAddress
  | .shutdownTimeout => .time settings.shutdownTimeout
  | .databaseUrl => .secret settings.databaseUrl
  | .historyLimit => .count settings.historyLimit
  | .pipelineTimeout => .time settings.pipelineTimeout
  | .channelEndpoint => .text settings.channelEndpoint
  | .userEndpoint => .text settings.userEndpoint
  | .incidentEndpoint => .text settings.incidentEndpoint
  | .requestEndpoint => .text settings.requestEndpoint
  | .authToken => .secret settings.authToken
  | .retryWaitMin => .time settings.retry.waitMin
  | .retryWaitMax => .time settings.retry.waitMax
  | .retryMax => .count settings.retry.maxRetries.toNat
  | .requestTimeout => .time settings.requestTimeout
  | .mailUrl => .text settings.mailUrl
  | .mailToken => .secret settings.mailToken
  | .messageStream => .text settings.messageStream
  | .fromAddress => .text settings.fromAddress
  | .serviceDesk => .addresses settings.serviceDesk
  | .reportsDir => .text settings.reportsDir

theorem ext_part {a b : Settings} (same : ∀ key, a.part key = b.part key) : a = b := by
  have each : ∀ key ∈ Key.all, a.part key = b.part key := fun key _ => same key
  simp only [Key.all, List.forall_mem_cons, part, Part.text.injEq, Part.secret.injEq,
    Part.count.injEq, Part.time.injEq, Part.addresses.injEq, UInt32.toNat_inj] at each
  obtain ⟨_, _, _, _, _, _, _, _, _, _, _, ⟨_, _, _⟩, _⟩ := a
  obtain ⟨_, _, _, _, _, _, _, _, _, _, _, ⟨_, _, _⟩, _⟩ := b
  simp_all only [List.not_mem_nil, false_implies, implies_true, and_true]

namespace Key

theorem mem_all (key : Key) : key ∈ all := by cases key <;> decide

def secrets : List Key := [.databaseUrl, .authToken, .mailToken]

def numberIn (key : Key) (text : String) : Nat :=
  ((Text.readNumeral (key.limit?.getD 0) (Text.trimmed text.toList)).toOption).getD 0

def partOf (key : Key) (text : String) : Part :=
  match key with
  | .externalAddress => .text (dropSlashes text)
  | .shutdownTimeout => .time (.ofSeconds (key.numberIn text))
  | .databaseUrl => .secret text
  | .historyLimit => .count (key.numberIn text)
  | .pipelineTimeout => .time (.ofSeconds (key.numberIn text))
  | .authToken => .secret text
  | .retryWaitMin => .time (.ofMillis (key.numberIn text))
  | .retryWaitMax => .time (.ofMillis (key.numberIn text))
  | .retryMax => .count (key.numberIn text)
  | .requestTimeout => .time (.ofSeconds (key.numberIn text))
  | .mailToken => .secret text
  | .serviceDesk => .addresses (recipients text)
  | _ => .text text

end Key

variable {lookup : Lookup} {key : Key} {limit : Nat}

section Given

/-- Nothing is given for the key, or white space only. -/
def Unset (lookup : Lookup) (key : Key) : Prop :=
  ∀ text, lookup key.name = some text → ∀ c ∈ text.toList, Text.isBlank c = true

theorem given_eq_none : given lookup key = none ↔ Unset lookup key := by
  simp [given, Option.filter_eq_none_iff, Unset, Text.allBlank]

/-- What is given for the key is no numeral that the key accepts. -/
def Faulty (lookup : Lookup) (key : Key) : Prop :=
  ∃ limit, key.limit? = some limit ∧ ∃ text, given lookup key = some text ∧
    ((∀ n, Text.Numeral (Text.trimmed text.toList) n → limit < n) ∨
      key = .historyLimit ∧ Text.Numeral (Text.trimmed text.toList) 0)

/-- The first of the keys at fault, in the order in which they are read. -/
def FirstFaulty (lookup : Lookup) (key : Key) : Prop :=
  ∃ before after, Key.all = before ++ key :: after ∧ Faulty lookup key ∧
    ∀ earlier ∈ before, ¬Faulty lookup earlier

theorem not_faulty_of_unset (unset : given lookup key = none) : ¬Faulty lookup key := by
  rintro ⟨_, _, _, given', _⟩
  cases unset.symm.trans given'

theorem faulty_iff_zero {n : Nat} {text : String} (numbers : key.limit? = some limit)
    (given' : given lookup key = some text)
    (numeral : Text.Numeral (Text.trimmed text.toList) n) (fits : n ≤ limit) :
    Faulty lookup key ↔ key = .historyLimit ∧ n = 0 := by
  constructor
  · rintro ⟨_, same, _, same', wrong⟩
    cases numbers.symm.trans same
    cases given'.symm.trans same'
    rcases wrong with large | ⟨history, zero⟩
    · exact absurd (large n numeral) (Nat.not_lt_of_le fits)
    · exact ⟨history, numeral.unique zero⟩
  · rintro ⟨history, rfl⟩
    exact ⟨limit, numbers, text, given', .inr ⟨history, numeral⟩⟩

end Given

section Numbers

inductive Numbered (lookup : Lookup) (key : Key) (limit : Nat) : Except Invalid (Option Nat) → Prop
  | nothing (unset : given lookup key = none) : Numbered lookup key limit (.ok none)
  | accepted {text : String} {n : Nat} (given' : given lookup key = some text)
    (numeral : Text.Numeral (Text.trimmed text.toList) n) (fits : n ≤ limit) :
    Numbered lookup key limit (.ok (some n))
  | refused {text reason : String} (given' : given lookup key = some text)
    (none' : ∀ n, Text.Numeral (Text.trimmed text.toList) n → limit < n) :
    Numbered lookup key limit (.error { key, value := text, reason })

theorem numeral_numbered (lookup : Lookup) (key : Key) (limit : Nat) :
    Numbered lookup key limit (numeral lookup key limit) := by
  unfold numeral
  split
  next unset => exact .nothing unset
  next text given' =>
    split
    next n read =>
      obtain ⟨numeral, fits⟩ := Text.readNumeral_eq_ok_iff.mp read
      exact .accepted given' numeral fits
    next error unread =>
      refine .refused given' fun n numeral => ?_
      by_contra fits
      have read := Text.readNumeral_eq_ok_iff.mpr ⟨numeral, Nat.le_of_not_lt fits⟩
      cases unread.symm.trans read

theorem numeral_eq_ok {found : Option Nat} (numbers : key.limit? = some limit)
    (read : numeral lookup key limit = .ok found) :
    found = (given lookup key).map key.numberIn ∧ ∀ n ∈ found, n ≤ limit := by
  have numbered := numeral_numbered lookup key limit
  rw [read] at numbered
  cases numbered with
  | nothing unset => simp [unset]
  | accepted given' numeral fits =>
    have number := Text.readNumeral_eq_ok_iff.mpr ⟨numeral, fits⟩
    simp [given', Key.numberIn, numbers, number, Except.toOption, fits]

theorem positiveLimit_eq_ok {found : Option Nat} (read : positiveLimit lookup = .ok found) :
    numeral lookup .historyLimit Text.limit64 = .ok found ∧ found ≠ some 0 := by
  unfold positiveLimit at read
  obtain ⟨limit, numbered, rest⟩ := bind_eq_ok.mp read
  split at rest
  next => cases rest
  next positive =>
    cases rest
    exact ⟨numbered, positive⟩

def number (lookup : Lookup) (key : Key) : Except Invalid (Option Nat) :=
  match key.limit? with
  | none => .ok none
  | some limit => if key = .historyLimit then positiveLimit lookup else numeral lookup key limit

theorem number_cases (lookup : Lookup) (key : Key) :
    (∃ found, number lookup key = .ok found ∧ ¬Faulty lookup key) ∨
      ∃ error, number lookup key = .error error ∧ error.key = key ∧ Faulty lookup key := by
  unfold number
  split
  next none' => exact .inl ⟨none, rfl, fun ⟨_, some', _⟩ => nomatch none'.symm.trans some'⟩
  next limit numbers =>
    have numbered := numeral_numbered lookup key limit
    generalize read : numeral lookup key limit = result at numbered
    split
    next history =>
      subst history
      cases numbers
      rw [positiveLimit, read]
      cases numbered with
      | nothing unset => exact .inl ⟨none, rfl, not_faulty_of_unset unset⟩
      | refused given' none' => exact .inr ⟨_, rfl, rfl, _, rfl, _, given', .inl none'⟩
      | @accepted text n given' numeral fits =>
        have faulty := faulty_iff_zero rfl given' numeral fits
        by_cases zero : n = 0
        · subst zero
          exact .inr ⟨_, rfl, rfl, faulty.mpr ⟨rfl, rfl⟩⟩
        · refine .inl ⟨some n, ?_, fun wrong => zero (faulty.mp wrong).2⟩
          exact if_neg (by simpa using zero)
    next other =>
      cases numbered with
      | nothing unset => exact .inl ⟨none, rfl, not_faulty_of_unset unset⟩
      | refused given' none' => exact .inr ⟨_, rfl, rfl, _, numbers, _, given', .inl none'⟩
      | @accepted text n given' numeral fits =>
        have faulty := faulty_iff_zero numbers given' numeral fits
        exact .inl ⟨some n, rfl, fun wrong => other (faulty.mp wrong).1⟩

end Numbers

section Refusals

def refusal? {α : Type} : Except Invalid α → Option Invalid
  | .error error => some error
  | .ok _ => none

theorem refusal?_bind {α β : Type} {first : Except Invalid α} {next : α → Except Invalid β}
    {later : Option Invalid}
    (follows : ∀ value, first = .ok value → refusal? (next value) = later) :
    refusal? (first >>= next) = (refusal? first).or later := by
  cases first with
  | error error => rfl
  | ok value => exact follows value rfl

theorem findSome?_cons_or {α β : Type} (find : α → Option β) (head : α) (tail : List α) :
    (head :: tail).findSome? find = (find head).or (tail.findSome? find) := by
  rw [List.findSome?_cons]
  cases find head <;> rfl

theorem refusal?_load (temporary : String) (lookup : Lookup) :
    refusal? (load temporary lookup) =
      Key.all.findSome? fun key => refusal? (number lookup key) := by
  simp only [Key.all, findSome?_cons_or, List.findSome?_nil]
  refine refusal?_bind fun shutdown _ => ?_
  refine refusal?_bind fun history _ => ?_
  refine refusal?_bind fun pipeline _ => ?_
  refine refusal?_bind fun waitMin _ => ?_
  refine refusal?_bind fun waitMax _ => ?_
  refine refusal?_bind fun retries _ => ?_
  exact refusal?_bind fun request _ => rfl

theorem refusal?_number {error : Invalid} (refused : refusal? (number lookup key) = some error) :
    error.key = key ∧ Faulty lookup key := by
  rcases number_cases lookup key with ⟨found, read, _⟩ | ⟨other, read, named, faulty⟩
  · rw [read] at refused
    cases refused
  · rw [read] at refused
    cases refused
    exact ⟨named, faulty⟩

theorem refusal?_number_eq_none : refusal? (number lookup key) = none ↔ ¬Faulty lookup key := by
  rcases number_cases lookup key with ⟨found, read, right⟩ | ⟨error, read, _, faulty⟩
  · simp [read, refusal?, right]
  · simp [read, refusal?, faulty]

theorem load_fails_iff (temporary : String) (lookup : Lookup) :
    (∃ error, load temporary lookup = .error error) ↔ ∃ key, Faulty lookup key := by
  have ordered := refusal?_load temporary lookup
  constructor
  · rintro ⟨error, failed⟩
    rw [failed] at ordered
    obtain ⟨key, _, refused⟩ := List.exists_of_findSome?_eq_some ordered.symm
    exact ⟨key, (refusal?_number refused).2⟩
  · rintro ⟨key, faulty⟩
    cases loaded : load temporary lookup with
    | error error => exact ⟨error, rfl⟩
    | ok settings =>
      rw [loaded] at ordered
      have right := List.findSome?_eq_none_iff.mp ordered.symm key key.mem_all
      exact absurd faulty (refusal?_number_eq_none.mp right)

theorem load_error_first {temporary : String} {error : Invalid}
    (failed : load temporary lookup = .error error) : FirstFaulty lookup error.key := by
  have ordered := refusal?_load temporary lookup
  rw [failed] at ordered
  obtain ⟨before, key, after, split, refused, earlier⟩ :=
    List.findSome?_eq_some_iff.mp ordered.symm
  obtain ⟨rfl, faulty⟩ := refusal?_number refused
  exact ⟨before, after, split, faulty, fun key member =>
    refusal?_number_eq_none.mp (earlier key member)⟩

end Refusals

section Parts

variable {temporary : String} {settings : Settings}

theorem part_load (loaded : load temporary lookup = .ok settings) (key : Key) :
    settings.part key =
      ((given lookup key).map key.partOf).getD ((defaults temporary).part key) := by
  simp only [load, bind_eq_ok] at loaded
  obtain ⟨shutdown, shutdownRead, history, historyRead, pipeline, pipelineRead, waitMin,
    waitMinRead, waitMax, waitMaxRead, retries, retriesRead, request, requestRead, made⟩ := loaded
  obtain ⟨rfl, -⟩ := numeral_eq_ok rfl shutdownRead
  obtain ⟨rfl, -⟩ := numeral_eq_ok rfl (positiveLimit_eq_ok historyRead).1
  obtain ⟨rfl, -⟩ := numeral_eq_ok rfl pipelineRead
  obtain ⟨rfl, -⟩ := numeral_eq_ok rfl waitMinRead
  obtain ⟨rfl, -⟩ := numeral_eq_ok rfl waitMaxRead
  obtain ⟨rfl, fits⟩ := numeral_eq_ok rfl retriesRead
  obtain ⟨rfl, -⟩ := numeral_eq_ok rfl requestRead
  cases made
  cases given' : given lookup key with
  | none => cases key <;> simp [part, given', defaults]
  | some text =>
    cases key with
    | retryMax =>
      -- The number of retries is kept in 32 bits, which hold it.
      have small := fits (Key.retryMax.numberIn text) (by simp [given'])
      simp only [part, given', Key.partOf, Option.map_some, Option.getD_some, UInt32.toNat_ofNat',
        Text.limit32, Part.count.injEq] at small ⊢
      exact Nat.mod_eq_of_lt (Nat.lt_of_le_pred (by decide) small)
    | _ => simp [part, given', Key.partOf]

theorem historyLimit_pos (loaded : load temporary lookup = .ok settings) :
    1 ≤ settings.historyLimit := by
  simp only [load, bind_eq_ok] at loaded
  obtain ⟨_, _, history, read, _, _, _, _, _, _, _, _, _, _, made⟩ := loaded
  have positive := (positiveLimit_eq_ok read).2
  cases made
  cases history with
  | none => exact Nat.le_of_ble_eq_true rfl
  | some n => exact Nat.one_le_iff_ne_zero.mpr fun zero => positive (congrArg some zero)

theorem dropSlashes_getLast? (address : String) :
    (dropSlashes address).toList.getLast? ≠ some '/' := by
  rw [dropSlashes, String.toList_ofList, List.getLast?_reverse]
  intro slash
  have kept := List.head?_dropWhile_not (· == '/') address.toList.reverse
  rw [slash] at kept
  cases kept

theorem externalAddress_getLast? (loaded : load temporary lookup = .ok settings) :
    settings.externalAddress.toList.getLast? ≠ some '/' := by
  have read := part_load loaded .externalAddress
  cases given' : given lookup .externalAddress with
  | none =>
    rw [given'] at read
    rw [Part.text.inj read]
    show "http://localhost:8080".toList.getLast? ≠ some '/'
    decide
  | some text =>
    rw [given'] at read
    rw [Part.text.inj read]
    exact dropSlashes_getLast? text

end Parts

/-- Settings are refused just if a key is at fault, under the name of the first one that is, and
otherwise each key decides its own part. -/
theorem settings_follow_their_keys (temporary : String) :
    (∀ lookup, (∃ error, load temporary lookup = .error error) ↔ ∃ key, Faulty lookup key) ∧
    (∀ lookup error, load temporary lookup = .error error → FirstFaulty lookup error.key) ∧
    (∀ first second a b key, load temporary first = .ok a → load temporary second = .ok b →
      (∀ other, other ≠ key → first other.name = second other.name) →
        ∀ other, other ≠ key → a.part other = b.part other) ∧
    (∀ lookup settings, load temporary lookup = .ok settings →
      (∀ key, Unset lookup key → settings.part key = (defaults temporary).part key) ∧
        1 ≤ settings.historyLimit ∧ settings.externalAddress.toList.getLast? ≠ some '/') ∧
    (∀ key ∈ Key.secrets, (defaults temporary).part key = .secret none) ∧
    ∀ a b : Settings, (∀ key, a.part key = b.part key) → a = b := by
  refine ⟨load_fails_iff temporary, fun lookup error => load_error_first, ?_, ?_, ?_,
    fun a b => ext_part⟩
  · intro first second a b key loadedFirst loadedSecond agree other different
    have same : given first other = given second other :=
      congrArg (Option.filter _) (agree other different)
    rw [part_load loadedFirst, part_load loadedSecond, same]
  · intro lookup settings loaded
    refine ⟨fun key unset => ?_, historyLimit_pos loaded, externalAddress_getLast? loaded⟩
    rw [part_load loaded, given_eq_none.mpr unset]
    rfl
  · intro key secret
    simp only [Key.secrets, List.mem_cons, List.not_mem_nil, or_false] at secret
    rcases secret with rfl | rfl | rfl <;> rfl

section Example

def listed (pairs : List (String × String)) : Lookup := fun name => pairs.lookup name

theorem refusal?_eq_none {α : Type} {result : Except Invalid α} :
    refusal? result = none ↔ ∃ value, result = .ok value := by
  cases result <;> simp [refusal?]

theorem refusal?_eq_some {α : Type} {result : Except Invalid α} {error : Invalid} :
    refusal? result = some error ↔ result = .error error := by
  cases result <;> simp [refusal?]

theorem settings_follow_a_changed_key :
    let first := listed [("EXTERNAL_LOCATION_ADDRESS", "http://x//"), ("RETRY_MAX", " +7 ")]
    let second := listed [("EXTERNAL_LOCATION_ADDRESS", "http://x//"), ("RETRY_MAX", "\u3000")]
    let wrong := listed [("RETRY_MAX", "many"), ("JOB_HISTORY_LIMIT", "+0")]
    ∃ a b, load "/tmp" first = .ok a ∧ load "/tmp" second = .ok b ∧
      (∀ other, other ≠ .retryMax → a.part other = b.part other) ∧
      a.part .retryMax = .count 7 ∧ b.part .retryMax = .count 5 ∧
      a.part .externalAddress = .text "http://x" ∧ a.externalAddress.toList.getLast? ≠ some '/' ∧
      load "/tmp" wrong =
        .error { key := .historyLimit, value := "0", reason := "must be at least 1" } ∧
      FirstFaulty wrong .historyLimit := by
  intro first second wrong
  obtain ⟨-, names, frame, loads, -⟩ := settings_follow_their_keys "/tmp"
  obtain ⟨a, loadedFirst⟩ : ∃ a, load "/tmp" first = .ok a :=
    refusal?_eq_none.mp (by decide +kernel)
  obtain ⟨b, loadedSecond⟩ : ∃ b, load "/tmp" second = .ok b :=
    refusal?_eq_none.mp (by decide +kernel)
  have failed : load "/tmp" wrong =
      .error { key := .historyLimit, value := "0", reason := "must be at least 1" } :=
    refusal?_eq_some.mp (by decide +kernel)
  have blank : Unset second .retryMax := given_eq_none.mp (by decide +kernel)
  have agree : ∀ other : Key, other ≠ .retryMax → first other.name = second other.name := by
    intro other different
    cases other with
    | retryMax => exact absurd rfl different
    | _ => decide +kernel
  refine ⟨a, b, loadedFirst, loadedSecond,
    frame first second a b .retryMax loadedFirst loadedSecond agree, ?_,
    (loads second b loadedSecond).1 .retryMax blank, ?_, (loads first a loadedFirst).2.2, failed,
    names wrong _ failed⟩
  · rw [part_load loadedFirst]
    decide +kernel
  · rw [part_load loadedFirst]
    decide +kernel

end Example

end Settings

end TicketReports
