import TenantSaas.App.Op

/-!
# Publishing usage events

`services/usage_service.py`: one event for each authenticated request that succeeded.  The
log lines and the publish timing are left out.
-/

namespace TenantSaas

open PyDateTime

/-- `_is_billable_status` (`usage_service.py:66-83`) -/
def isBillableStatus (statusCode : Int) : Bool := decide (200 ≤ statusCode ∧ statusCode < 400)

/-- `datetime.now(timezone.utc).isoformat(timespec="milliseconds").replace("+00:00", "Z")` -/
def eventTimestamp (now : DateTime) : String :=
  PyStr.replace (isoformatMilliseconds now) "+00:00" "Z"

/-- `build_usage_event` (`usage_service.py:86-99`), for the event id and the time drawn. -/
def buildUsageEvent (identity : Identity) (method path : String) (statusCode usageUnits : Int)
    (eventId : String) (now : DateTime) : Json :=
  .obj [
    ("event_id", .str eventId),
    ("tenant_id", .str identity.tenant),
    ("user_id", .ofOption (pyOr (pyOr identity.userId identity.sub) identity.username)),
    ("action", .str (method ++ " " ++ path)),
    ("api_path", .str path),
    ("http_method", .str method),
    ("status_code", .int statusCode),
    ("usage_units", .int usageUnits),
    ("timestamp", .str (eventTimestamp now))]

/-- `_publish` (`usage_service.py:102-124`); `tenantId` is `event["tenant_id"]`. -/
def publish (config : Config) (event : Json) (tenantId : String) : App Unit :=
  if config.demoMode || !config.usageMeteringEnabled then perform (.recordDemoEvent event)
  else if config.usageEventsQueueUrl = "" then pure ()
  else perform (.sendMessage (.dumps event) tenantId)

/-- `record_api_usage` (`usage_service.py:127-169`); whatever is raised is swallowed. -/
def recordApiUsage (config : Config) (identity : Option Identity) (method path : String)
    (statusCode usageUnits : Int) : App Unit :=
  if !config.usageMeteringEnabled && !config.demoMode then pure ()
  else
    match identity with
    | none => pure ()
    | some identity =>
      if !isBillableStatus statusCode then pure ()
      else
        tryCatch
          (do
            let eventId ← perform .uuid4
            let now ← perform .utcnow
            let event := buildUsageEvent identity method path statusCode usageUnits eventId now
            publish config event identity.tenant)
          fun _ => pure ()

/-- What metering asks for: the two draws, and to hand over the identity's event. -/
theorem recordApiUsage_calls {P : AppOp → Prop} (config : Config) (identity : Identity)
    (method path : String) (statusCode usageUnits : Int) (huuid : P .uuid4) (hnow : P .utcnow)
    (hevent : ∀ eventId now,
      let event := buildUsageEvent identity method path statusCode usageUnits eventId now
      P (.recordDemoEvent event) ∧ P (.sendMessage (.dumps event) identity.tenant)) :
    (recordApiUsage config (some identity) method path statusCode usageUnits).Calls P := by
  unfold recordApiUsage
  split
  · trivial
  show Prog.Calls P (if _ then _ else _)
  split
  · trivial
  apply Prog.Calls.handle
  · refine Prog.Calls.bind (perform_calls huuid) fun eventId => ?_
    refine Prog.Calls.bind (perform_calls hnow) fun now => ?_
    unfold publish
    split
    · exact perform_calls (hevent eventId now).1
    split
    · trivial
    · exact perform_calls (hevent eventId now).2
  · exact fun _ => trivial

end TenantSaas
