import TicketReports.Proofs.Download.Received
import TicketReports.Proofs.Text.Blank

set_option autoImplicit false

namespace TicketReports

theorem User.hasEmail_iff (user : User) : user.hasEmail = true ↔ Text.trim user.email ≠ "" := by
  rw [hasEmail, Bool.not_eq_true', Ne, Text.trim_eq_empty_iff, Bool.not_eq_true]

def UserRecord.IsMailable (record : UserRecord) : Prop := Text.trim (record.email.getD "") ≠ ""

instance : DecidablePred UserRecord.IsMailable := fun record =>
  inferInstanceAs (Decidable (Text.trim (record.email.getD "") ≠ ""))

namespace Download

open Paging

/-- The user is made of the record and belongs to the channel that it was asked for. -/
structure Enrols (source : Channel × UserRecord) (user : User) : Prop where
  channelId : user.channelId = source.1.id
  id : user.id = source.2.id.getD ""
  email : user.email = source.2.email.getD ""
  name : user.name = source.2.name.getD ""
  organization : user.organization = source.2.organization.getD ""
  kind : user.kind = source.2.kind.getD ""

theorem enrols (source : Channel × UserRecord) : Enrols source (source.2.toUser source.1.id) :=
  ⟨rfl, rfl, rfl, rfl, rfl, rfl⟩

def enrolled (sources : List (Channel × UserRecord)) : List User :=
  (sources.map fun (channel, record) => record.toUser channel.id).filter User.hasEmail

theorem hasEmail_toUser (source : Channel × UserRecord) :
    (source.2.toUser source.1.id).hasEmail = true ↔ source.2.IsMailable :=
  User.hasEmail_iff _

theorem enrolled_mailed (sources : List (Channel × UserRecord)) :
    ∀ user ∈ enrolled sources, Text.trim user.email ≠ "" :=
  fun user member => user.hasEmail_iff.mp (List.mem_filter.mp member).2

theorem enrolled_enrols (sources : List (Channel × UserRecord)) :
    List.Forall₂ Enrols (sources.filter fun source => source.2.IsMailable) (enrolled sources) := by
  have same : (User.hasEmail ∘ fun source : Channel × UserRecord => source.2.toUser source.1.id) =
      fun source => decide source.2.IsMailable := by
    funext source
    exact Bool.eq_iff_iff.mpr ((hasEmail_toUser source).trans decide_eq_true_iff.symm)
  rw [enrolled, List.filter_map, same, List.forall₂_map_right_iff, List.forall₂_same]
  exact fun source _ => enrols source

section Loading

variable {W : Type} [Network W]

end Loading

end Download

end TicketReports
