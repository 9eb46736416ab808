import TicketReports.Access.Call
import TicketReports.Proofs.Text.Utf8

set_option autoImplicit false

namespace TicketReports

open Text

namespace Body

theorem take_drainFrom (read : List UInt8) (chunks : List (List UInt8)) :
    (drainFrom read chunks).take drainLimit = (read ++ chunks.flatten).take drainLimit := by
  induction chunks generalizing read with
  | nil => simp [drainFrom]
  | cons chunk rest ih =>
    by_cases short : read.length < drainLimit
    next =>
      -- The chunk is read to its end, perhaps past the limit; what is too much is cut off later.
      rw [drainFrom, if_pos short, ih, List.flatten_cons, List.append_assoc]
    next =>
      -- The limit is reached, so that no chunk is asked for and none would count.
      rw [drainFrom, if_neg short, List.take_append_of_le_length (Nat.le_of_not_lt short)]

theorem drain_eq (body : Body) : body.drain = Utf8.lossy (body.bytes.take drainLimit) := by
  rw [drain, take_drainFrom, List.nil_append, bytes]

theorem drain_short {body : Body} {text : String} (same : body.bytes = bytesOf text)
    (short : text.utf8ByteSize ≤ drainLimit) : body.drain = text := by
  have whole : (bytesOf text).length ≤ drainLimit := Utf8.length_bytesOf text ▸ short
  rw [drain_eq, same, List.take_of_length_le whole, Utf8.lossy_bytesOf]

theorem drain_long {body : Body} {text : String} (same : body.bytes = bytesOf text)
    (long : drainLimit < text.utf8ByteSize) :
    ∃ kept c later, text = kept ++ String.singleton c ++ later ∧
      kept.utf8ByteSize ≤ drainLimit ∧ drainLimit < kept.utf8ByteSize + c.utf8Size ∧
      body.drain = if kept.utf8ByteSize = drainLimit then kept else kept ++ "\ufffd" := by
  rw [drain_eq, same]
  exact Utf8.lossy_bytesOf_take text long

end Body

namespace Endpoint

theorem unexpected_congr {status : Nat} {one other : Body}
    (same : one.bytes.take Body.drainLimit = other.bytes.take Body.drainLimit) :
    unexpected { status, body := one } = unexpected { status, body := other } := by
  have told : one.drain = other.drain := by rw [Body.drain_eq, Body.drain_eq, same]
  unfold unexpected
  rw [told]

/-- What is told of a reply is what its first 4096 bytes say, whatever chunks they came in. -/
theorem failure_text_ignores_chunking (body : Body) :
    body.drain = Utf8.lossy (body.bytes.take (min 4096 body.bytes.length)) ∧
      (∀ status other, other.bytes.take 4096 = body.bytes.take 4096 →
        unexpected { status, body := other } = unexpected { status, body }) ∧
      ∀ text, body.bytes = bytesOf text →
        (text.utf8ByteSize ≤ 4096 → body.drain = text) ∧
        (4096 < text.utf8ByteSize →
          ∃ kept c later, text = kept ++ String.singleton c ++ later ∧
            kept.utf8ByteSize ≤ 4096 ∧ 4096 < kept.utf8ByteSize + c.utf8Size ∧
            body.drain = if kept.utf8ByteSize = 4096 then kept else kept ++ "\ufffd") := by
  -- The lemmas have the limit by its name.
  have limit : 4096 = Body.drainLimit := rfl
  rw [limit]
  refine ⟨?_, fun status other same => unexpected_congr same, fun text same => ⟨?_, ?_⟩⟩
  · rw [Body.drain_eq, ← List.take_eq_take_min]
  · exact fun short => Body.drain_short same short
  · exact fun long => Body.drain_long same long

-- A character that two chunks share is told as it is.
example : unexpected { status := 418, body := ⟨[[0xC3], [], [0xA9]], true⟩ } =
    unexpected { status := 418, body := ⟨[[0xC3, 0xA9]], false⟩ } :=
  unexpected_congr rfl

end Endpoint

end TicketReports
