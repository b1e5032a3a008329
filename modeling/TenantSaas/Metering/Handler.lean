import TenantSaas.Misc.Prog
import TenantSaas.Misc.DateTime
import TenantSaas.Python

/-!
# The metering Lambda

`metering_lambda/handler.py`: each SQS record is validated, written to the usage ledger by
a conditional put, and, when the put was not a duplicate, added to the monthly aggregate.
`ingested_at` and `updated_at` are written and never read, so they are left out.
-/

namespace TenantSaas

open PyDateTime

/-- A calendar month, as the keys of both tables name it. -/
structure BillingMonth where
  year : Nat
  month : Nat
  year_range : 1 ≤ year ∧ year ≤ 9999
  month_range : 1 ≤ month ∧ month ≤ 12
  deriving DecidableEq

namespace BillingMonth

def chars (m : BillingMonth) : List Char := monthChars m.year m.month

/-- `YYYY-MM` -/
def key (m : BillingMonth) : String := String.ofList m.chars

theorem notMem_chars (m : BillingMonth) : '#' ∉ m.chars :=
  notMem_monthChars (by decide) (by decide) _ _

@[simp] theorem key_toList (m : BillingMonth) : m.key.toList = m.chars := String.toList_ofList

theorem chars_inj {m m' : BillingMonth} (h : m.chars = m'.chars) : m = m' := by
  have hy := m.year_range
  have hm := m.month_range
  have hy' := m'.year_range
  have hm' := m'.month_range
  obtain ⟨h1, h2⟩ := monthChars_inj (by omega) (by omega) (by omega) (by omega) h
  cases m
  cases m'
  simp only [mk.injEq]
  exact ⟨h1, h2⟩

theorem key_inj {m m' : BillingMonth} (h : m.key = m'.key) : m = m' :=
  chars_inj (String.ofList_injective h)

/-- The month of a datetime in its own offset. -/
def ofDateTime (t : DateTime) : BillingMonth := ⟨t.year, t.month, t.year_range, t.month_range⟩

end BillingMonth

/-! ## The tables -/

/-- The item `ledger_table.put_item` writes. -/
structure LedgerItem where
  pk : String
  sk : String
  eventId : Json
  tenantId : Json
  userId : Json
  apiPath : Json
  httpMethod : Json
  statusCode : Json
  usageUnits : Int
  eventTimestamp : Json

/-- The arguments of `aggregate_table.update_item`: the key, what `ADD` adds to
`request_count` and `usage_units`, and what `SET` sets. -/
structure AggregateUpdate where
  pk : String
  sk : String
  one : Int
  units : Int
  tenantId : Json
  billingMonth : String

inductive DynamoOp where
  | putItem (item : LedgerItem)
  | updateItem (update : AggregateUpdate)

/-- Code of the Lambda, as a program over its two DynamoDB calls. -/
abbrev Metering := Prog (fun _ : DynamoOp => Unit) PyError

def conditionalCheckFailed : PyError := .clientError "ConditionalCheckFailedException"

/-! ## Validation -/

/-- `_REQUIRED_FIELDS` (`handler.py:83-92`) -/
def requiredFields : List String :=
  ["event_id", "tenant_id", "user_id", "api_path", "http_method", "status_code", "usage_units",
    "timestamp"]

/-- `f not in event or event[f] in (None, "")` -/
def isMissing (event : Json) (f : String) : Except PyError Bool :=
  match event.contains f with
  | .error e => .error e
  | .ok false => .ok true
  | .ok true => (event.getItem f).map Json.isBlank

def missingFields (event : Json) : List String → Except PyError (List String)
  | [] => .ok []
  | f :: fs => do
    let missing ← isMissing event f
    let rest ← missingFields event fs
    return if missing then f :: rest else rest

theorem isMissing_eq_false {fields : List (String × Json)} {f : String} {v : Json}
    (hlookup : fields.lookup f = some v) (hblank : v.isBlank = false) :
    isMissing (.obj fields) f = .ok false := by
  have hany : (fields.any fun field => field.1 == f) = true := by
    induction fields with
    | nil => cases hlookup
    | cons field fields ih =>
      rw [List.lookup_cons] at hlookup
      cases hkey : f == field.1 with
      | true => simp [eq_comm.mp (eq_of_beq hkey)]
      | false =>
        rw [hkey] at hlookup
        simp [ih hlookup]
  simp [isMissing, Json.contains, hany, hlookup, Except.map, hblank]

theorem missingFields_eq_nil {fields : List (String × Json)} {names : List String}
    (h : ∀ f ∈ names, ∃ v, fields.lookup f = some v ∧ v.isBlank = false) :
    missingFields (.obj fields) names = .ok [] := by
  induction names with
  | nil => rfl
  | cons f names ih =>
    obtain ⟨v, hlookup, hblank⟩ := h f List.mem_cons_self
    have hrest := ih fun g hg => h g (List.mem_cons_of_mem _ hg)
    rw [missingFields, isMissing_eq_false hlookup hblank, hrest]
    rfl

/-- `f"{missing}"` for a list of field names. -/
def formatNames (names : List String) : String :=
  "[" ++ ", ".intercalate (names.map fun name => "'" ++ name ++ "'") ++ "]"

/-- `datetime.fromisoformat(timestamp.replace("Z", "+00:00"))` -/
def parseTimestamp : Json → Except PyError DateTime
  | .str s =>
    match fromisoformat (PyStr.replace s "Z" "+00:00") with
    | some t => .ok t
    | none => .error (.valueError "Invalid isoformat string")
  | _ => .error .attributeError

/-- `if bad: raise InvalidUsageEvent(message)` -/
def rejectIf (bad : Bool) (message : String) : Except PyError Unit :=
  if bad then .error (.invalidUsageEvent message) else .ok ()

/-- `_validate` (`handler.py:103-124`) -/
def validate (event : Json) : Except PyError Unit := do
  let missing ← missingFields event requiredFields
  rejectIf (missing ≠ []) ("Missing required field(s): " ++ formatNames missing)
  let tenantId ← event.getItem "tenant_id"
  rejectIf (!tenantId.isStrip) "tenant_id must be a non-empty string"
  let units ← event.getItem "usage_units"
  rejectIf (!units.isNumber || units.isNonpositive) "usage_units must be a positive number"
  let timestamp ← event.getItem "timestamp"
  rejectIf (!(parseTimestamp timestamp).isOk) "Invalid timestamp"
  let status ← event.getItem "status_code"
  rejectIf (!status.isInt) "status_code must be an integer"

theorem rejectIf_eq_ok {bad : Bool} {message : String} {u : Unit} :
    rejectIf bad message = .ok u ↔ bad = false := by
  cases bad <;> simp [rejectIf]

/-- What the validation has established of an event it accepts. -/
theorem validate_eq_ok {event : Json} :
    validate event = .ok () ↔
      missingFields event requiredFields = .ok [] ∧
      (∃ tenant, event.getItem "tenant_id" = .ok (.str tenant) ∧ PyStr.strip tenant ≠ "") ∧
      (∃ units, event.getItem "usage_units" = .ok units ∧ units.isNumber ∧
        units.isNonpositive = false) ∧
      (∃ timestamp t, event.getItem "timestamp" = .ok timestamp ∧
        parseTimestamp timestamp = .ok t) ∧
      ∃ status, event.getItem "status_code" = .ok status ∧ status.isInt := by
  unfold validate
  simp only [exceptBind_eq_ok, rejectIf_eq_ok, exists_const]
  constructor
  · intro h
    obtain ⟨missing, hmissing, hnone, tenantId, htenant, hstrip, units, hunits, hnum,
      timestamp, htime, hparse, status, hstatus, hint⟩ := h
    have hnone : missing = [] := by simpa using hnone
    obtain ⟨tenant, rfl, hblank⟩ := Json.isStrip_eq_true.mp (by simpa using hstrip)
    obtain ⟨t, ht⟩ := isOk_eq_true.mp (by simpa using hparse)
    rw [hnone] at hmissing
    simp only [Bool.or_eq_false_iff, Bool.not_eq_false'] at hnum
    exact ⟨hmissing, ⟨tenant, htenant, hblank⟩, ⟨units, hunits, hnum⟩, ⟨timestamp, t, htime, ht⟩,
      status, hstatus, by simpa using hint⟩
  · intro h
    obtain ⟨hmissing, ⟨tenant, htenant, hblank⟩, ⟨units, hunits, hnum⟩, ⟨timestamp, t, htime, ht⟩,
      status, hstatus, hint⟩ := h
    have hstrip : (Json.str tenant).isStrip = true := Json.isStrip_eq_true.mpr ⟨tenant, rfl, hblank⟩
    have hparse : (parseTimestamp timestamp).isOk = true := isOk_eq_true.mpr ⟨t, ht⟩
    exact ⟨[], hmissing, by simp, .str tenant, htenant, by simp [hstrip], units, hunits,
      by simp [hnum], timestamp, htime, by simp [hparse], status, hstatus, by simp [hint]⟩

/-! ## Processing -/

/-- `_billing_month` (`handler.py:127-129`) -/
def billingMonth (timestamp : Json) : Except PyError String :=
  (parseTimestamp timestamp).map strftimeMonth

/-- The two writes of `_process_event` for a validated event (`handler.py:135-180`). -/
def usageWrites (repr : Json → String) (event : Json) :
    Except PyError (LedgerItem × AggregateUpdate) := do
  let tenantId ← event.getItem "tenant_id"
  let eventId ← event.getItem "event_id"
  let timestamp ← event.getItem "timestamp"
  let month ← billingMonth timestamp
  let usageUnits ← (← event.getItem "usage_units").toInt
  let pk := "TENANT#" ++ tenantId.format repr
  let sk := "USAGE#" ++ month ++ "#" ++ eventId.format repr
  let item : LedgerItem := {
    pk := pk
    sk := sk
    eventId := eventId
    tenantId := tenantId
    userId := ← event.getItem "user_id"
    apiPath := ← event.getItem "api_path"
    httpMethod := ← event.getItem "http_method"
    statusCode := ← event.getItem "status_code"
    usageUnits := usageUnits
    eventTimestamp := timestamp }
  return (item, {
    pk := pk
    sk := "MONTH#" ++ month
    one := 1
    units := usageUnits
    tenantId := tenantId
    billingMonth := month })

/-- The conditional put and the increment it guards (`handler.py:143-181`). -/
def recordUsage (item : LedgerItem) (update : AggregateUpdate) : Metering Unit := do
  let duplicate ← tryCatch
    (do
      Prog.perform (.putItem item)
      pure false)
    (fun e => if e = conditionalCheckFailed then pure true else throw e)
  -- a duplicate skips the increment and counts as handled
  if duplicate then pure () else Prog.perform (.updateItem update)

/-- `_process_event` (`handler.py:132-182`) -/
def processEvent (repr : Json → String) (event : Json) : Metering Unit := do
  Prog.ofExcept (validate event)
  let (item, update) ← Prog.ofExcept (usageWrites repr event)
  recordUsage item update

/-- An SQS record: its `messageId` and its `body`. -/
structure Record where
  messageId : String
  body : Body

/-- One pass of the loop of `handler`: the three `except` clauses differ in what they log,
and each lists the message. -/
def handleRecord (repr : Json → String) (record : Record) : Metering (List String) :=
  tryCatch
    (do
      let body ← Prog.ofExcept record.body.loads
      processEvent repr body
      pure [])
    (fun _ => pure [record.messageId])

/-- `handler` (`handler.py:185-214`): the `itemIdentifier`s of `batchItemFailures`. -/
def handler (repr : Json → String) : List Record → Metering (List String)
  | [] => pure []
  | record :: records => do
    let failed ← handleRecord repr record
    let rest ← handler repr records
    pure (failed ++ rest)

/-- Noon of 1 August 2026, UTC. -/
def sampleTime : DateTime where
  year := 2026
  month := 8
  day := 1
  hour := 12
  minute := 0
  second := 0
  microsecond := 0
  utcoffset := some 0
  year_range := by decide
  month_range := by decide
  day_range := by decide
  time_range := by decide
  offset_range := by decide

end TenantSaas
