import TenantSaas.App.Op

/-!
# Billing

`services/billing_service.py`: plan prices applied to the monthly aggregates of a tenant.
Amounts are exact decimals; `round(x, 2)` rounds ties to even.
-/

namespace TenantSaas

open PyDateTime

/-- A value of `PLAN_CATALOG`. -/
structure Plan where
  displayName : String
  baseAmount : ℚ
  includedRequests : Int
  overageRate : ℚ

/-- `PLAN_CATALOG` (`billing_service.py:53-57`) -/
def planCatalog : List (String × Plan) :=
  [("Basic", ⟨"Basic", 10, 5000, 35 / 10000⟩), ("Pro", ⟨"Pro", 30, 20000, 25 / 10000⟩),
    ("Enterprise", ⟨"Enterprise", 100, 100000, 15 / 10000⟩)]

def defaultPlan : String := "Basic"

/-- `PLAN_CATALOG[_DEFAULT_PLAN]` -/
def basicPlan : Plan := ⟨"Basic", 10, 5000, 35 / 10000⟩

/-- `_demo_usage_by_tenant` (`billing_service.py:64-67`) -/
def demoUsageByTenant : List (String × Int) := [("TenantA", 24850), ("TenantB", 3120)]

/-- `_plan_for_tenant` (`billing_service.py:70-76`): the plan's name and its prices. -/
def planForTenant (config : Config) (tenant : String) : String × Plan :=
  let planName := (config.billingPlanMap.lookup tenant).getD defaultPlan
  (planName, (planCatalog.lookup planName).getD basicPlan)

/-- `current_billing_period` (`billing_service.py:79-83`) -/
def currentBillingPeriod : App String := do
  let now ← perform .utcnow
  pure (strftimeMonth now)

/-- A row of `_query_tenant_aggregates`. -/
structure UsageRow where
  billingMonth : String
  requestCount : Int
  usageUnits : Int
  deriving DecidableEq

def UsageRow.ofItem (item : AggregateItem) : UsageRow :=
  ⟨item.billingMonth, item.requestCount, item.usageUnits⟩

/-- `_query_tenant_aggregates` (`billing_service.py:100-134`) -/
def queryTenantAggregates (config : Config) (tenant : String) : App (List UsageRow) :=
  if config.demoMode then do
    let month ← currentBillingPeriod
    let units := (demoUsageByTenant.lookup tenant).getD 500
    pure [⟨month, units, units⟩]
  else if config.usageAggregateTable = "" then pure []
  else
    tryCatch
      (do
        let items ← perform (.queryAggregates (partitionKey tenant))
        let results := items.map UsageRow.ofItem
        pure (results.mergeSort fun r r' => decide (r'.billingMonth ≤ r.billingMonth)))
      fun e =>
        match e with
        | .botoCoreError => pure []
        | .clientError _ => pure []
        | e => throw e

/-- `period or current_billing_period()` -/
def periodOrCurrent (period : Option String) : App String :=
  match period with
  | some p => if p = "" then currentBillingPeriod else pure p
  | none => currentBillingPeriod

/-- The loop of `get_tenant_usage`: the first row of the period. -/
def usageFor (rows : List UsageRow) (period : String) : UsageRow :=
  (rows.find? fun row => row.billingMonth == period).getD ⟨period, 0, 0⟩

/-- `get_tenant_usage` (`billing_service.py:137-146`) -/
def getTenantUsage (config : Config) (tenant : String) (period : Option String) :
    App UsageRow := do
  let period ← periodOrCurrent period
  let rows ← queryTenantAggregates config tenant
  pure (usageFor rows period)

/-- An integer nearest to `q`, the even one of two. -/
def roundHalfEven (q : ℚ) : Int :=
  if 2 * (q - ⌊q⌋) = 1 then if ⌊q⌋ % 2 = 0 then ⌊q⌋ else ⌊q⌋ + 1 else ⌊q + 1 / 2⌋

/-- `round(x, 2)` -/
def round2 (q : ℚ) : ℚ := (roundHalfEven (q * 100) : ℚ) / 100

structure Invoice where
  tenantId : String
  billingPeriod : String
  planName : String
  planDisplayName : String
  includedRequests : Int
  usageUnits : Int
  overageUnits : Int
  baseAmount : ℚ
  usageAmount : ℚ
  totalAmount : ℚ
  overageRate : ℚ
  deriving DecidableEq

/-- The pricing of `calculate_invoice` (`billing_service.py:158-176`). -/
def priceInvoice (tenant period : String) (plan : String × Plan) (usage : UsageRow) : Invoice :=
  let overageUnits := max 0 (usage.usageUnits - plan.2.includedRequests)
  let usageAmount := round2 (overageUnits * plan.2.overageRate)
  { tenantId := tenant
    billingPeriod := period
    planName := plan.1
    planDisplayName := plan.2.displayName
    includedRequests := plan.2.includedRequests
    usageUnits := usage.usageUnits
    overageUnits := overageUnits
    baseAmount := plan.2.baseAmount
    usageAmount := usageAmount
    totalAmount := round2 (plan.2.baseAmount + usageAmount)
    overageRate := plan.2.overageRate }

/-- `calculate_invoice` (`billing_service.py:149-176`) -/
def calculateInvoice (config : Config) (tenant : String) (period : Option String) :
    App Invoice := do
  let period ← periodOrCurrent period
  let usage ← getTenantUsage config tenant (some period)
  pure (priceInvoice tenant period (planForTenant config tenant) usage)

/-- One invoice for each period, in order. -/
def calculateInvoices (config : Config) (tenant : String) : List String → App (List Invoice)
  | [] => pure []
  | period :: periods => do
    let invoice ← calculateInvoice config tenant (some period)
    let invoices ← calculateInvoices config tenant periods
    pure (invoice :: invoices)

/-- `get_invoices` (`billing_service.py:179-192`) -/
def getInvoices (config : Config) (tenant : String) (limit : Nat) : App (List Invoice) := do
  let periods ← queryTenantAggregates config tenant
  if periods.isEmpty then do
    let current ← currentBillingPeriod
    let invoice ← calculateInvoice config tenant (some current)
    pure [invoice]
  else calculateInvoices config tenant ((periods.take limit).map UsageRow.billingMonth)

end TenantSaas
