import Mathlib
import TicketReports.Proofs.Download.Parrot
import TicketReports.Proofs.Json.Nulls

set_option autoImplicit false

namespace TicketReports

open Json

namespace Json.Field

def needed (name : String) : Field := { name, nullable := false }

def optional (name : String) : Field := { name, nullable := true }

def list (name : String) (record : List Field) : Field :=
  { name, nullable := false, change := Each (Filled record) }

end Json.Field

namespace UserRecord

def fields : List Field :=
  ["uuid", "full_name", "email", "type", "org_display_name"].map .optional

theorem ofJson?_filled {old new : Json} (filled : Filled fields old new) :
    ofJson? new = ofJson? old := by
  refine filled.read_eq fun olds news slots => ?_
  match slots with
  | .cons id (.cons name (.cons email (.cons kind (.cons organization .nil)))) =>
    simp only [id.lenient rfl, name.lenient rfl, email.lenient rfl, kind.lenient rfl,
      organization.lenient rfl]

end UserRecord

namespace TicketRecord

def fields : List Field :=
  .needed "number" ::
    ["short_description", "state_id", "location", "created_at", "assigned_to"].map .optional

theorem ofJson?_filled {old new : Json} (filled : Filled fields old new) :
    ofJson? new = ofJson? old := by
  refine filled.read_eq fun olds news slots => ?_
  match slots with
  | .cons number (.cons description (.cons state (.cons location (.cons createdAt (.cons assignee
      .nil))))) =>
    simp only [number.required rfl rfl, description.lenient rfl, state.lenient rfl,
      location.lenient rfl, createdAt.lenient rfl, assignee.lenient rfl]

end TicketRecord

namespace ResultPage

def fields (record : List Field) : List Field := [.optional "bookmark", .list "result" record]

variable {α : Type} {record : List Field} {read : Json → Option α}

theorem ofJson?_filled (alike : ∀ old new, Filled record old new → read new = read old)
    {old new : Json} (filled : Filled (fields record) old new) :
    ofJson? read new = ofJson? read old := by
  refine filled.read_eq fun olds news slots => ?_
  match slots with
  | .cons bookmark (.cons result .nil) =>
    simp only [bookmark.lenient rfl,
      result.defaulting [] rfl fun _ _ each => Each.list?_eq alike each]

theorem ofJson?_null {value : Json} (empty : NullAt "result" 1 value) :
    ofJson? read value = none := by
  rw [ofJson?]
  cases placed : value.slots? ["bookmark", "result"] with
  | none => rfl
  | some slots =>
    have null := empty.slot rfl placed
    match slots with
    | [bookmark, result] =>
      obtain rfl : result = .given .null := Option.some.inj null
      simp [Slot.defaulting, list?]
    | [] | [_] | _ :: _ :: _ :: _ => rfl

end ResultPage

namespace Channel

def recordFields : List Field := [.needed "space", .optional "name"]

def listFields : List Field := [.list "spaces" recordFields]

theorem ofRecord?_filled {old new : Json} (filled : Filled recordFields old new) :
    ofRecord? new = ofRecord? old := by
  refine filled.read_eq fun olds news slots => ?_
  match slots with
  | .cons space (.cons name .nil) =>
    simp only [space.required rfl rfl, name.lenient rfl]

theorem listOfJson?_filled {old new : Json} (filled : Filled listFields old new) :
    listOfJson? new = listOfJson? old := by
  refine filled.read_eq fun olds news slots => ?_
  match slots with
  | .cons spaces .nil =>
    exact spaces.defaulting [] rfl fun _ _ each =>
      Each.list?_eq (fun _ _ record => ofRecord?_filled record) each

theorem listOfJson?_null {value : Json} (empty : NullAt "spaces" 0 value) :
    listOfJson? value = none := by
  rw [listOfJson?]
  cases placed : value.slots? ["spaces"] with
  | none => rfl
  | some slots =>
    have null := empty.slot rfl placed
    match slots with
    | [spaces] =>
      obtain rfl : spaces = .given .null := Option.some.inj null
      rfl
    | [] | _ :: _ :: _ => rfl

end Channel

namespace Download

def Holds (reply : Reply) (value : Json) : Prop :=
  reply.body.whole?.bind Json.ofBytes? = some value

theorem decoded_holds {α : Type} {what : Download} {read : Json → Option α} {reply : Reply}
    {value : Json} (holds : Holds reply value) :
    decoded what read (.ok reply) = (read value).elim (.error (.undecodable what)) .ok := by
  rw [decoded, holds, Option.bind_some]
  cases read value <;> rfl

/-- A reply with nulls for optional fields that another one leaves out is read like it, but not one
with a null for a list. -/
theorem nulls_stand_for_absence {before after : Reply} {old new : Json} (holds : Holds before old)
    (holds' : Holds after new) :
    (Filled Channel.listFields old new →
      decoded .channels Channel.listOfJson? (.ok after) =
        decoded .channels Channel.listOfJson? (.ok before)) ∧
    (Filled (ResultPage.fields UserRecord.fields) old new →
      decoded .users (ResultPage.ofJson? UserRecord.ofJson?) (.ok after) =
        decoded .users (ResultPage.ofJson? UserRecord.ofJson?) (.ok before)) ∧
    (∀ kind : TicketKind, Filled (ResultPage.fields TicketRecord.fields) old new →
      decoded kind.download (ResultPage.ofJson? TicketRecord.ofJson?) (.ok after) =
        decoded kind.download (ResultPage.ofJson? TicketRecord.ofJson?) (.ok before)) ∧
    (NullAt "spaces" 0 new →
      decoded .channels Channel.listOfJson? (.ok after) = .error (.undecodable .channels)) ∧
    (NullAt "result" 1 new →
      decoded .users (ResultPage.ofJson? UserRecord.ofJson?) (.ok after) =
        .error (.undecodable .users) ∧
      ∀ kind : TicketKind, decoded kind.download (ResultPage.ofJson? TicketRecord.ofJson?)
        (.ok after) = .error (.undecodable kind.download)) := by
  simp only [decoded_holds holds, decoded_holds holds']
  refine ⟨fun filled => ?_, fun filled => ?_, fun kind filled => ?_, fun empty => ?_,
    fun empty => ⟨?_, fun kind => ?_⟩⟩
  · rw [Channel.listOfJson?_filled filled]
  · rw [ResultPage.ofJson?_filled (fun _ _ record => UserRecord.ofJson?_filled record) filled]
  · rw [ResultPage.ofJson?_filled (fun _ _ record => TicketRecord.ofJson?_filled record) filled]
  · rw [Channel.listOfJson?_null empty, Option.elim_none]
  · rw [ResultPage.ofJson?_null empty, Option.elim_none]
  · rw [ResultPage.ofJson?_null empty, Option.elim_none]

def told (text : String) : Reply := { status := 200, body := ⟨[Shelf.ascii text], false⟩ }

def terse : Reply := told "\x7b\"result\":[\x7b\"number\":\"INC1\"\x7d,[\"INC2\"]]\x7d"

def wordy : Reply :=
  told ("\x7b\"bookmark\":null,\"result\":" ++
    "[\x7b\"location\":null,\"number\":\"INC1\"\x7d,[\"INC2\",null]]\x7d")

def terseRecords : List Json :=
  [.object [(some "number", .ofText "INC1")], .array [.ofText "INC2"]]

def wordyRecords : List Json :=
  [.object [(some "location", .null), (some "number", .ofText "INC1")],
    .array [.ofText "INC2", .null]]

theorem terse_holds : Holds terse (.object [(some "result", .array terseRecords)]) := by
  unfold Holds
  cbv

theorem wordy_holds :
    Holds wordy (.object [(some "bookmark", .null), (some "result", .array wordyRecords)]) := by
  unfold Holds
  cbv

theorem wordyRecords_filled :
    List.Forall₂ (Filled TicketRecord.fields) terseRecords wordyRecords := by
  have location : Filled TicketRecord.fields (.object [(some "number", .ofText "INC1")])
      (.object [(some "location", .null), (some "number", .ofText "INC1")]) :=
    @Filled.object _ _ [(some "number", .ofText "INC1")] _ ["location"]
      (.cons ⟨rfl, by simp [TicketRecord.fields, Field.needed, Field.optional]⟩ .nil) (by decide)
      (by simp [TicketRecord.fields, Field.needed, Field.optional]) (.swap _ _ [])
  exact .cons location (.cons (.array (.item rfl (.null rfl .nil))) .nil)

theorem wordy_filled :
    Filled (ResultPage.fields TicketRecord.fields)
      (.object [(some "result", .array terseRecords)])
      (.object [(some "bookmark", .null), (some "result", .array wordyRecords)]) := by
  refine @Filled.object _ _ [(some "result", .array wordyRecords)] _ ["bookmark"]
    (.cons ⟨rfl, ?_⟩ .nil) (by decide) ?_ (.swap _ _ [])
  · simpa [ResultPage.fields, Field.optional, Field.list] using Each.array wordyRecords_filled
  · simp [ResultPage.fields, Field.optional, Field.list]

theorem wordy_page_is_terse_page :
    Holds terse (.object [(some "result", .array terseRecords)]) ∧
      Holds wordy (.object [(some "bookmark", .null), (some "result", .array wordyRecords)]) ∧
      decoded .incidents (ResultPage.ofJson? TicketRecord.ofJson?) (.ok wordy) =
        .ok { records := [{ number := "INC1" }, { number := "INC2" }] } := by
  refine ⟨terse_holds, wordy_holds, ?_⟩
  obtain ⟨_, _, tickets, _⟩ := nulls_stand_for_absence terse_holds wordy_holds
  exact (tickets .incident wordy_filled).trans (by decide +kernel)

theorem null_lists_are_refused :
    decoded .channels Channel.listOfJson? (.ok (told "\x7b\x7d")) = .ok [] ∧
      decoded .channels Channel.listOfJson? (.ok (told "\x7b\"spaces\":null\x7d")) =
        .error (.undecodable .channels) ∧
      decoded .incidents (ResultPage.ofJson? TicketRecord.ofJson?) (.ok (told "\x7b\x7d")) =
        .ok {} ∧
      decoded .incidents (ResultPage.ofJson? TicketRecord.ofJson?)
        (.ok (told "\x7b\"result\":null\x7d")) = .error (.undecodable .incidents) := by
  refine ⟨?_, ?_, ?_, ?_⟩ <;> decide +kernel

end Download

end TicketReports
