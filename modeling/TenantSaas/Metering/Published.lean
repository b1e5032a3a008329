import TenantSaas.App.World
import TenantSaas.Services.UsageService

/-!
# What the API publishes, the Lambda accepts

`build_usage_event` and the handler are deployed apart and share only the message.  Every
event of a billable request passes the handler's validation and is filed under the UTC month
in which the event was built.
-/

namespace TenantSaas

open PyDateTime

/-- A request at the point where `meter_usage` runs, with the world it runs in. -/
structure MeteredRequest where
  identity : Identity
  method : String
  path : String
  statusCode : Int
  world : World
  start : AppState

namespace MeteredRequest

/-- The application after `record_api_usage`, called with its default of one unit. -/
def finish (config : Config) (r : MeteredRequest) : AppState :=
  (r.world.run (recordApiUsage config (some r.identity) r.method r.path r.statusCode 1) r.start).2

/-- The messages the request put on the queue. -/
def published (config : Config) (r : MeteredRequest) : List (Body × String) :=
  (r.finish config).queue.drop r.start.queue.length

/-- The draw of `uuid.uuid4()`. -/
def eventId (r : MeteredRequest) : String := r.world.uuid r.start.tick

/-- The reading of the clock that `build_usage_event` takes. -/
def now (r : MeteredRequest) : DateTime := r.world.now (r.start.tick + 1)

/-- The UTC month of the event. -/
def month (r : MeteredRequest) : BillingMonth := .ofDateTime r.now

def event (r : MeteredRequest) : Json :=
  buildUsageEvent r.identity r.method r.path r.statusCode 1 r.eventId r.now

/-- A request that is metered: an identity of a mapped group, and a status that is billed. -/
structure Billable (r : MeteredRequest) : Prop where
  tenant : ∃ group ∈ cognitoGroupMap, group.2.tenant = r.identity.tenant
  user : truthy r.identity.userId ∨ truthy r.identity.sub ∨ truthy r.identity.username
  method : r.method ≠ ""
  path : r.path ≠ ""
  status : 200 ≤ r.statusCode ∧ r.statusCode < 400

/-- Sending to the queue does not fail. -/
def Sends (r : MeteredRequest) : Prop :=
  ∀ n body tenant, r.world.fault n (.sendMessage body tenant) = none

end MeteredRequest

/-- Metering is on outside demo mode, and the queue and the aggregate table are configured. -/
structure Config.Metering (config : Config) : Prop where
  demoMode : config.demoMode = false
  enabled : config.usageMeteringEnabled = true
  queue : config.usageEventsQueueUrl ≠ ""
  table : config.usageAggregateTable ≠ ""

section Timestamp

variable {now : DateTime}

theorem parseTimestamp_eventTimestamp (utc : now.utcoffset = some 0) :
    parseTimestamp (.str (eventTimestamp now)) = .ok now.truncate := by
  simp only [parseTimestamp, eventTimestamp, fromisoformat_isoformat now utc]

theorem eventTimestamp_ne (utc : now.utcoffset = some 0) : eventTimestamp now ≠ "" := by
  intro h
  have hparse := parseTimestamp_eventTimestamp utc
  have hempty : parseTimestamp (.str "") = .error (.valueError "Invalid isoformat string") := rfl
  rw [h, hempty] at hparse
  cases hparse

/-- The handler files the event under the month in which it was built. -/
theorem billingMonth_eventTimestamp (utc : now.utcoffset = some 0) :
    billingMonth (.str (eventTimestamp now)) = .ok (BillingMonth.ofDateTime now).key := by
  rw [billingMonth, parseTimestamp_eventTimestamp utc]
  rfl

end Timestamp

namespace MeteredRequest

variable {r : MeteredRequest}

/-- The tenants of `COGNITO_GROUP_MAP` pass the handler's test. -/
theorem Billable.strip_tenant (h : r.Billable) : PyStr.strip r.identity.tenant ≠ "" := by
  obtain ⟨group, hgroup, htenant⟩ := h.tenant
  rw [← htenant]
  have hall : ∀ group ∈ cognitoGroupMap, PyStr.strip group.2.tenant ≠ "" := by decide
  exact hall group hgroup

theorem Billable.tenant_ne (h : r.Billable) : r.identity.tenant ≠ "" := by
  obtain ⟨group, hgroup, htenant⟩ := h.tenant
  rw [← htenant]
  have hall : ∀ group ∈ cognitoGroupMap, group.2.tenant ≠ "" := by decide
  exact hall group hgroup

theorem Billable.exists_user (h : r.Billable) :
    ∃ user, pyOr (pyOr r.identity.userId r.identity.sub) r.identity.username = some user ∧
      user ≠ "" := by
  apply exists_of_truthy
  rw [truthy_pyOr, truthy_pyOr]
  rcases h.user with h | h | h
  · simp [h]
  · simp [h]
  · simp [h]

/-- No required field is missing. -/
theorem missingFields_event (h : r.Billable) : missingFields r.event requiredFields = .ok [] := by
  obtain ⟨user, huser, hne⟩ := h.exists_user
  have hid : r.eventId ≠ "" := r.world.uuid_ne _
  have htime : eventTimestamp r.now ≠ "" := eventTimestamp_ne (r.world.now_utc _)
  rw [event, buildUsageEvent, huser]
  apply missingFields_eq_nil
  intro f hf
  simp only [requiredFields, List.mem_cons, List.not_mem_nil, or_false] at hf
  rcases hf with rfl | rfl | rfl | rfl | rfl | rfl | rfl | rfl
  · exact ⟨_, rfl, Json.isBlank_str hid⟩
  · exact ⟨_, rfl, Json.isBlank_str h.tenant_ne⟩
  · exact ⟨_, rfl, Json.isBlank_str hne⟩
  · exact ⟨_, rfl, Json.isBlank_str h.path⟩
  · exact ⟨_, rfl, Json.isBlank_str h.method⟩
  · exact ⟨_, rfl, rfl⟩
  · exact ⟨_, rfl, rfl⟩
  · exact ⟨_, rfl, Json.isBlank_str htime⟩

theorem validate_event (h : r.Billable) : validate r.event = .ok () := by
  rw [validate_eq_ok]
  refine ⟨missingFields_event h, ⟨r.identity.tenant, rfl, h.strip_tenant⟩, ⟨_, rfl, rfl, rfl⟩,
    ⟨_, _, rfl, parseTimestamp_eventTimestamp (r.world.now_utc _)⟩, ⟨_, rfl, rfl⟩⟩

/-- The row the handler writes for the event. -/
def item (r : MeteredRequest) : LedgerItem where
  pk := partitionKey r.identity.tenant
  sk := "USAGE#" ++ r.month.key ++ "#" ++ r.eventId
  eventId := .str r.eventId
  tenantId := .str r.identity.tenant
  userId := .ofOption (pyOr (pyOr r.identity.userId r.identity.sub) r.identity.username)
  apiPath := .str r.path
  httpMethod := .str r.method
  statusCode := .int r.statusCode
  usageUnits := 1
  eventTimestamp := .str (eventTimestamp r.now)

/-- The increment the handler makes for the event. -/
def update (r : MeteredRequest) : AggregateUpdate where
  pk := partitionKey r.identity.tenant
  sk := monthKey r.month
  one := 1
  units := 1
  tenantId := .str r.identity.tenant
  billingMonth := r.month.key

theorem usageWrites_event (r : MeteredRequest) (repr : Json → String) :
    usageWrites repr r.event = .ok (r.item, r.update) := by
  have hmonth : billingMonth (.str (eventTimestamp r.now)) = .ok r.month.key :=
    billingMonth_eventTimestamp (r.world.now_utc _)
  unfold usageWrites
  simp only [exceptBind_eq_ok]
  exact ⟨_, rfl, _, rfl, _, rfl, _, hmonth, _, rfl, _, rfl, _, rfl, _, rfl, _, rfl, _, rfl, rfl⟩

/-- A billable request puts exactly its event on the queue. -/
theorem published_eq {config : Config} (hconfig : config.Metering) (h : r.Billable)
    (hsends : r.Sends) : r.published config = [(.dumps r.event, r.identity.tenant)] := by
  have hid : r.world.run (perform .uuid4) r.start =
      (.ok r.eventId, { r.start with tick := r.start.tick + 1 }) := by
    rw [World.run_perform, World.exec_of_answer (World.failure_of_internal rfl)]
    rfl
  have hnow : r.world.run (perform .utcnow) { r.start with tick := r.start.tick + 1 } =
      (.ok r.now, { r.start with tick := r.start.tick + 2 }) := by
    rw [World.run_perform, World.exec_of_answer (World.failure_of_internal rfl)]
    rfl
  have hpublish : publish config r.event r.identity.tenant =
      perform (.sendMessage (.dumps r.event) r.identity.tenant) := by
    simp [publish, hconfig.demoMode, hconfig.enabled, hconfig.queue]
  have hreach : r.world.failure { r.start with tick := r.start.tick + 2 }
      (.sendMessage (.dumps r.event) r.identity.tenant) = none := hsends _ _ _
  have hsend : r.world.run (publish config r.event r.identity.tenant)
      { r.start with tick := r.start.tick + 2 } =
      (.ok (), { r.start with
        tick := r.start.tick + 3
        queue := r.start.queue ++ [(.dumps r.event, r.identity.tenant)] }) := by
    rw [hpublish, World.run_perform, World.exec_of_answer hreach]
    rfl
  have hbillable : isBillableStatus r.statusCode = true := decide_eq_true h.status
  have hfinish : r.finish config = { r.start with
      tick := r.start.tick + 3
      queue := r.start.queue ++ [(.dumps r.event, r.identity.tenant)] } := by
    unfold finish recordApiUsage
    simp only [hconfig.enabled, hconfig.demoMode, hbillable, Bool.not_true, Bool.false_and,
      Bool.false_eq_true, if_false]
    rw [World.run_tryCatch_ok
      ((World.run_bind_ok hid).trans ((World.run_bind_ok hnow).trans hsend))]
  rw [published, hfinish]
  simp

end MeteredRequest

end TenantSaas
