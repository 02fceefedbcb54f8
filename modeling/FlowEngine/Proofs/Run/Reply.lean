import Mathlib
import FlowEngine.Proofs.Entries
import FlowEngine.Run.NodeResult

/-!
# Results as JSON

A result is written with the members that it has, and read as any reply is: what is
missing or of the wrong kind is made up for. Reading what was written gives the
result back, an error with its message (`ofReply_toJson`). A reply that is read has
one (`worded_ofReply`), so results are stable on the wire from their first reading
on, and the errors without a message are all that is lost (`reply_stable`).
-/

namespace FlowEngine.NodeResult

/-! ## The members of the written form -/

theorem get?_member? (key : String) (value : Option Json) (other : String) :
    Entries.get? (member? key value) other = if key = other then value else none := by
  cases value with
  | none => simp [member?, Entries.get?]
  | some v => simp [member?, Entries.get?]

section
variable (r : NodeResult)

theorem get?_toJson (key : String) : r.toJson.get? key =
    ((((if "status" = key then some (.string r.status.text) else none).or
      (if "message" = key then r.message.map .string else none)).or
      (if "result" = key then some r.payload else none)).or
      (if "selectedBranch" = key then r.branch.map .bool else none)).or
      (if "selectedNode" = key then r.selected.map .string else none) := by
  simp only [toJson, Json.get?, Entries.get?_append, get?_member?, Entries.get?]

theorem status_toJson : r.toJson.get? "status" >>= Json.asString? >>= Status.ofText? = some r.status := by
  rw [get?_toJson]
  exact Status.ofText?_text r.status

theorem message_toJson : r.toJson.get? "message" >>= Json.asString? = r.message := by
  rw [get?_toJson]
  cases hm : r.message <;> rfl

theorem payload_toJson : (r.toJson.get? "result").getD .null = r.payload := by
  rw [get?_toJson]
  rfl

theorem branch_toJson : r.toJson.get? "selectedBranch" >>= Json.asBool? = r.branch := by
  rw [get?_toJson]
  cases hb : r.branch <;> rfl

theorem selected_toJson : r.toJson.get? "selectedNode" >>= Json.asString? = r.selected := by
  rw [get?_toJson]
  cases hs : r.selected <;> rfl

end

/-! ## Reading -/

/-- The result with the message that stands in for none, if it is an error. -/
def worded (r : NodeResult) : NodeResult :=
  { r with message := if r.status = .error then some (r.message.getD defaultMessage) else r.message }

theorem worded_eq_self {r : NodeResult} : r.worded = r ↔ ¬(r.status = .error ∧ r.message = none) := by
  obtain ⟨status, message, payload, branch, selected⟩ := r
  cases message with
  | none => cases status <;> simp [worded]
  | some m => simp [worded]

theorem ofReply_toJson (r : NodeResult) : ofReply r.toJson = r.worded := by
  simp only [ofReply, status_toJson, message_toJson, payload_toJson, branch_toJson, selected_toJson, worded]

theorem worded_ofReply (v : Json) : (ofReply v).worded = ofReply v := by
  unfold ofReply
  split
  · rfl
  · rename_i status _
    by_cases he : status = .error
    · simp [worded, he]
    · simp [worded, he]

/-- Whatever the reply, the result read from it is read back from its written form; and so is
every result but the errors without a message. -/
theorem reply_stable : (∀ v : Json, ofReply (ofReply v).toJson = ofReply v) ∧
    ∀ r : NodeResult, ofReply r.toJson = r ↔ ¬(r.status = .error ∧ r.message = none) := by
  refine ⟨fun v => ?_, fun r => ?_⟩
  · rw [ofReply_toJson, worded_ofReply]
  · rw [ofReply_toJson, worded_eq_self]

end FlowEngine.NodeResult
