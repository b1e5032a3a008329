import TenantSaas.LambdaBilling.Handler
import TenantSaas.Metering.EndToEnd
import TenantSaas.Misc.JsonRoundTrip

/-!
# Usage events as texts

What the application sends is the text of an event; what the two Lambdas receive is a text.
Whatever the path of the request and the ids of the user hold, both read the event that was
published, and find in it all that they require.
-/

namespace TenantSaas

open JsonText

/-- The body of an SQS record, as `json.loads` takes it. -/
def Body.ofText (text : String) : Body :=
  match JsonText.loads text with
  | some v => .json v
  | none => .malformed

theorem Body.ofText_dumps (float : PyFloat → List Char) {v : Json} (h : Plain v) :
    Body.ofText (JsonText.dumps float v) = .dumps v := by
  rw [Body.ofText, JsonText.loads_dumps h]
  rfl

theorem plain_buildUsageEvent (identity : Identity) (method path : String)
    (statusCode usageUnits : Int) (eventId : String) (now : PyDateTime.DateTime) :
    Plain (buildUsageEvent identity method path statusCode usageUnits eventId now) := by
  refine .obj (by simp) ?_
  simp only [List.forall_mem_cons, List.not_mem_nil, false_imp_iff, implies_true, and_true]
  exact ⟨.str _, .str _, plain_ofOption _, .str _, .str _, .str _, .int _, .int _, .str _⟩

namespace MeteredRequest

variable {r : MeteredRequest}

/-- `json.dumps(event)` -/
def text (float : PyFloat → List Char) (r : MeteredRequest) : String := dumps float r.event

/-- The billing Lambda finds its fields in every event. -/
theorem absentFields_event (r : MeteredRequest) :
    LambdaBilling.absentFields r.event LambdaBilling.requiredFields = .ok [] := by
  rfl

/-- The text of a billable request is one that SQS delivers as it is, and in which either Lambda
reads its event: the metering handler writes the row and the increment it stands for, and the
billing Lambda finds no field missing. -/
theorem text_understood (float : PyFloat → List Char) (repr : Json → String) (messageId : String)
    (h : r.Billable) :
    (∀ c ∈ (r.text float).toList, isPrintable c = true) ∧
    (Body.ofText (r.text float)).loads = .ok r.event ∧
    validate r.event = .ok () ∧ usageWrites repr r.event = .ok (r.item, r.update) ∧
    LambdaBilling.readData ⟨messageId, Body.ofText (r.text float)⟩ = .ok r.event := by
  have hplain : Plain r.event := plain_buildUsageEvent _ _ _ _ _ _ _
  have hread : Body.ofText (r.text float) = .dumps r.event := Body.ofText_dumps float hplain
  refine ⟨?_, ?_, r.validate_event h, r.usageWrites_event repr, ?_⟩
  · rw [text, dumps, String.toList_ofList]
    exact isPrintable_write hplain
  · rw [hread, Body.loads_dumps]
  · rw [LambdaBilling.readData, hread, Body.loads_dumps]
    simp only [exceptBind_eq_ok]
    exact ⟨_, rfl, [], absentFields_event r, rfl⟩

/-- A request whose path has a quotation mark, a line break and two letters beyond ASCII. -/
def quotedRequest : MeteredRequest :=
  { sampleRequest 0 with path := "/users/\"zoë\"\n𝕏" }

theorem quotedRequest_understood :
    (Body.ofText (quotedRequest.text fun _ => [])).loads = .ok quotedRequest.event :=
  have billable : quotedRequest.Billable :=
    { sampleRequest_billable 0 with path := show "/users/\"zoë\"\n𝕏" ≠ "" by decide }
  (text_understood (fun _ => []) (fun _ => "") "m-1" billable).2.1

end MeteredRequest

end TenantSaas
