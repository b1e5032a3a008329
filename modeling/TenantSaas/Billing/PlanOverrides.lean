import TenantSaas.App.Startup
import TenantSaas.Billing.Queries
import TenantSaas.Misc.Assign

/-!
# Overrides of the plan map

At start-up `BILLING_PLAN_MAP_JSON` is decoded and the static plan map updated with it, entry by
entry.  An invoice has its plan's name from the map and its prices from the catalog, where an
unknown name stands for `Basic`.
-/

namespace TenantSaas

/-! ## The plan map of a process -/

/-- A key of a dict, up to `==`: `True`, `1` and `1.0` are one key. -/
inductive DictKey where
  | null
  | number (value : ℚ)
  | inf (negative : Bool)
  | nan
  | str (value : String)
  deriving DecidableEq

/-- The key a value is hashed to; lists and dicts are unhashable. -/
def Json.asKey : Json → Option DictKey
  | null => some .null
  | bool b => some (.number (if b then 1 else 0))
  | int i => some (.number i)
  | float (.fin q) => some (.number q)
  | float (.inf negative) => some (.inf negative)
  | float .nan => some .nan
  | str s => some (.str s)
  | arr _ => none
  | obj _ => none

abbrev PlanMap := DictKey → Option Json

/-- A plan map with the names of plans alone. -/
def PlanMap.ofNames (names : List (String × String)) : PlanMap
  | .str tenant => (names.lookup tenant).map Json.str
  | _ => none

/-- `BILLING_PLAN_MAP` before any override (`config.py:238`). -/
def staticPlanMap : PlanMap := .ofNames [("TenantA", "Pro"), ("TenantB", "Basic")]

/-- `list(v)` -/
def Json.elements : Json → Except PyError (List Json)
  | arr items => .ok items
  | obj fields => .ok (fields.map fun field => .str field.1)
  | str s => .ok (s.toList.map fun c => .str (String.singleton c))
  | _ => .error .typeError

/-- Two values as a key and its value. -/
def keyValue : List Json → Except PyError (DictKey × Json)
  | [key, value] =>
    match key.asKey with
    | some key => .ok (key, value)
    | none => .error .typeError
  | _ => .error (.valueError "dictionary update sequence element has wrong length; 2 is required")

/-- An element of a sequence, as `dict.update` takes it. -/
def Json.asPair (element : Json) : Except PyError (DictKey × Json) := do
  let elements ← element.elements
  keyValue elements

/-- What `dict.update(v)` goes through: the items of a dict, or the elements of a sequence. -/
def Json.updates : Json → List (Except PyError (DictKey × Json))
  | obj fields => fields.map fun field => .ok (.str field.1, field.2)
  | arr items => items.map asPair
  | str s => s.toList.map fun c => asPair (.str (String.singleton c))
  | _ => [.error .typeError]

/-- `plan_map.update(v)`, which leaves what it has set when it raises. -/
def dictUpdate (planMap : PlanMap) (v : Json) : Except PyError Unit × PlanMap :=
  Assign.assignEach planMap v.updates

/-- `except (ValueError, TypeError)` -/
def PyError.isValueOrType : PyError → Bool
  | .valueError _ | .jsonDecodeError | .typeError => true
  | _ => false

section Configured

variable (loads : String → Body) (environ : Environ)

/-- The `try` of `config.py:242-245`. -/
def overridden (text : String) : Except PyError Unit × PlanMap :=
  match (loads text).loads with
  | .ok value => dictUpdate staticPlanMap value
  | .error e => (.error e, staticPlanMap)

/-- `BILLING_PLAN_MAP` (`config.py:238-245`); `loads` is `json.loads`. -/
def configuredPlanMap : Except PyError PlanMap :=
  let text := environ.setting "BILLING_PLAN_MAP_JSON" ""
  if text = "" then .ok staticPlanMap
  else
    match overridden loads text with
    | (.ok (), planMap) => .ok planMap
    | (.error e, planMap) => if e.isValueOrType then .ok planMap else .error e

/-- The pairs of the text, each read or not. -/
def textReads (text : String) : List (Except PyError (DictKey × Json)) :=
  match (loads text).loads with
  | .ok value => value.updates
  | .error e => [.error e]

/-- The pairs of the override. -/
def overrideReads : List (Except PyError (DictKey × Json)) :=
  let text := environ.setting "BILLING_PLAN_MAP_JSON" ""
  if text = "" then [] else textReads loads text

end Configured

/-! ## Invoices under a plan map -/

/-- The dict of `_plan_for_tenant`; the map may give the plan any name. -/
structure NamedPlan where
  planName : Json
  plan : Plan

/-- `config.BILLING_PLAN_MAP.get(tenant, _DEFAULT_PLAN)` -/
def PlanMap.planName (planMap : PlanMap) (tenant : String) : Json :=
  (planMap (.str tenant)).getD (.str defaultPlan)

/-- `PLAN_CATALOG.get(plan_name, PLAN_CATALOG[_DEFAULT_PLAN])` -/
def catalogPlan (planName : Json) : Except PyError Plan :=
  match planName.asKey with
  | some (.str name) => .ok ((planCatalog.lookup name).getD basicPlan)
  | some _ => .ok basicPlan
  | none => .error .typeError

/-- `_plan_for_tenant` (`billing_service.py:70-76`) under a plan map. -/
def planUnder (planMap : PlanMap) (tenant : String) : Except PyError NamedPlan := do
  let planName := planMap.planName tenant
  let plan ← catalogPlan planName
  pure ⟨planName, plan⟩

/-- The dict of `calculate_invoice`. -/
structure NamedInvoice where
  tenantId : String
  billingPeriod : String
  planName : Json
  planDisplayName : String
  includedRequests : Int
  usageUnits : Int
  overageUnits : Int
  baseAmount : ℚ
  usageAmount : ℚ
  totalAmount : ℚ
  overageRate : ℚ

def Invoice.toNamed (invoice : Invoice) : NamedInvoice where
  tenantId := invoice.tenantId
  billingPeriod := invoice.billingPeriod
  planName := .str invoice.planName
  planDisplayName := invoice.planDisplayName
  includedRequests := invoice.includedRequests
  usageUnits := invoice.usageUnits
  overageUnits := invoice.overageUnits
  baseAmount := invoice.baseAmount
  usageAmount := invoice.usageAmount
  totalAmount := invoice.totalAmount
  overageRate := invoice.overageRate

/-- The pricing of `calculate_invoice` (`billing_service.py:158-176`). -/
def priceUnder (tenant period : String) (named : NamedPlan) (usage : UsageRow) : NamedInvoice :=
  let overageUnits := max 0 (usage.usageUnits - named.plan.includedRequests)
  let usageAmount := round2 (overageUnits * named.plan.overageRate)
  { tenantId := tenant
    billingPeriod := period
    planName := named.planName
    planDisplayName := named.plan.displayName
    includedRequests := named.plan.includedRequests
    usageUnits := usage.usageUnits
    overageUnits := overageUnits
    baseAmount := named.plan.baseAmount
    usageAmount := usageAmount
    totalAmount := round2 (named.plan.baseAmount + usageAmount)
    overageRate := named.plan.overageRate }

section Invoices

variable (config : Config) (planMap : PlanMap) (tenant : String) (period : Option String)

/-- `calculate_invoice` (`billing_service.py:149-176`) under a plan map. -/
def invoiceUnder : App NamedInvoice := do
  let period ← periodOrCurrent period
  let named ← Prog.ofExcept (planUnder planMap tenant)
  let usage ← getTenantUsage config tenant (some period)
  pure (priceUnder tenant period named usage)

/-- The period and the usage an invoice is calculated for. -/
def invoiceUsage : App (String × UsageRow) := do
  let period ← periodOrCurrent period
  let usage ← getTenantUsage config tenant (some period)
  pure (period, usage)

end Invoices

/-- The name of a plan in the catalog. -/
def Json.Cataloged (planName : Json) : Prop :=
  ∃ name, planName = .str name ∧ (planCatalog.lookup name).isSome = true

/-- The invoice has the name of the plan in the catalog that it is priced by. -/
def NamedInvoice.Labelled (invoice : NamedInvoice) : Prop :=
  ∃ name plan, planCatalog.lookup name = some plan ∧ invoice.planName = .str name ∧
    invoice.planDisplayName = plan.displayName ∧
    invoice.includedRequests = plan.includedRequests ∧
    invoice.overageRate = plan.overageRate ∧ invoice.baseAmount = plan.baseAmount

/-- Whoever's usage is read gets an invoice, and a labelled one. -/
def NeverMislabels (planMap : PlanMap) : Prop :=
  ∀ (config : Config) (world : World) (tenant : String) (period : Option String)
    (read : String × UsageRow) (s t : AppState),
    world.run (invoiceUsage config tenant period) s = (.ok read, t) →
      ∃ invoice, world.run (invoiceUnder config planMap tenant period) s = (.ok invoice, t) ∧
        invoice.Labelled

section Override

variable (reads : List (Except PyError (DictKey × Json)))

/-- The static map with the whole override, or the static map. -/
def WholeOrStatic (planMap : PlanMap) : Prop :=
  match Assign.whole reads with
  | some pairs => planMap = Assign.assign staticPlanMap pairs
  | none => planMap = staticPlanMap

/-- An override that is taken gives tenants no other value than names in the catalog; of one that
is rejected, the pairs that were set by then give every key the value it has. -/
def OverrideHolds : Prop :=
  match Assign.whole reads with
  | some pairs => ∀ tenant value, Assign.last pairs (.str tenant) = some value → value.Cataloged
  | none => ∀ key value, Assign.last (Assign.readable reads) key = some value →
      staticPlanMap key = some value

end Override

/-! ## Configuration -/

section Configuration

variable {loads : String → Body} {environ : Environ} {v : Json} {e : PyError}

theorem keyValue_error {elements : List Json} (h : keyValue elements = .error e) :
    e.isValueOrType = true := by
  rcases elements with _ | ⟨key, _ | ⟨value, _ | ⟨third, rest⟩⟩⟩
  case cons.cons.nil =>
    unfold keyValue at h
    cases hkey : key.asKey with
    | some key' =>
      simp only [hkey] at h
      cases h
    | none =>
      simp only [hkey] at h
      cases h
      rfl
  all_goals
    cases h
    rfl

theorem elements_error (h : v.elements = .error e) : e.isValueOrType = true := by
  cases v <;> cases h <;> rfl

theorem asPair_error (h : v.asPair = .error e) : e.isValueOrType = true := by
  unfold Json.asPair at h
  cases helements : v.elements with
  | error e' =>
    rw [helements] at h
    cases h
    exact elements_error helements
  | ok elements =>
    rw [helements] at h
    exact keyValue_error h

theorem updates_error (h : .error e ∈ v.updates) : e.isValueOrType = true := by
  cases v with
  | obj fields =>
    obtain ⟨field, -, hfield⟩ := List.mem_map.mp h
    cases hfield
  | arr items =>
    obtain ⟨item, -, hitem⟩ := List.mem_map.mp h
    exact asPair_error hitem
  | str s =>
    obtain ⟨c, -, hc⟩ := List.mem_map.mp h
    exact asPair_error hc
  | _ =>
    cases List.mem_singleton.mp h
    rfl

theorem loads_error {body : Body} (h : body.loads = .error e) : e.isValueOrType = true := by
  cases body <;> cases h
  rfl

/-- What the `try` raises is caught. -/
theorem overridden_error {text : String} (h : (overridden loads text).1 = .error e) :
    e.isValueOrType = true := by
  unfold overridden at h
  cases hloads : (loads text).loads with
  | ok value =>
    rw [hloads] at h
    exact updates_error (Assign.mem_of_assignEach_error h)
  | error e' =>
    rw [hloads] at h
    cases h
    exact loads_error hloads

theorem overridden_snd (loads : String → Body) (text : String) :
    (overridden loads text).2 =
      Assign.assign staticPlanMap (Assign.readable (textReads loads text)) := by
  unfold overridden textReads
  cases (loads text).loads with
  | ok value => exact Assign.assignEach_snd staticPlanMap value.updates
  | error e => rfl

/-- Configuration raises nothing, and sets the pairs up to the first one that cannot be read. -/
theorem configuredPlanMap_eq (loads : String → Body) (environ : Environ) :
    configuredPlanMap loads environ =
      .ok (Assign.assign staticPlanMap (Assign.readable (overrideReads loads environ))) := by
  unfold configuredPlanMap overrideReads
  by_cases hblank : environ.setting "BILLING_PLAN_MAP_JSON" "" = ""
  · simp only [hblank, if_true]
    rfl
  · have hmap := overridden_snd loads (environ.setting "BILLING_PLAN_MAP_JSON" "")
    have hcaught := @overridden_error loads
    simp only [hblank, if_false]
    rw [← hmap]
    rcases hresult : overridden loads (environ.setting "BILLING_PLAN_MAP_JSON" "") with ⟨e | _, m⟩
    · simp only [hcaught (congrArg Prod.fst hresult), if_true]
    · rfl

end Configuration

/-! ## Invoices -/

section Invoice

variable {config : Config} {planMap : PlanMap} {tenant : String} {period : Option String}
  {named : NamedPlan}

theorem planUnder_eq_ok (h : planUnder planMap tenant = .ok named) :
    named.planName = planMap.planName tenant := by
  obtain ⟨plan, -, h⟩ := exceptBind_eq_ok.mp h
  cases h
  rfl

theorem planUnder_cataloged {name : String} {plan : Plan}
    (hname : planMap.planName tenant = .str name) (hplan : planCatalog.lookup name = some plan) :
    planUnder planMap tenant = .ok ⟨.str name, plan⟩ := by
  have hcatalog : catalogPlan (.str name) = .ok ((planCatalog.lookup name).getD basicPlan) := rfl
  rw [planUnder, hname, hcatalog, hplan]
  rfl

/-- With a plan, an invoice is its pricing of the usage that is read. -/
theorem invoiceUnder_eq (h : planUnder planMap tenant = .ok named) :
    invoiceUnder config planMap tenant period = (do
      let read ← invoiceUsage config tenant period
      pure (priceUnder tenant read.1 named read.2)) := by
  unfold invoiceUnder invoiceUsage
  rw [h]
  simp only [bind_assoc, pure_bind]
  rfl

theorem run_invoiceUnder {world : World} {invoice : NamedInvoice} {s t : AppState}
    (h : world.run (invoiceUnder config planMap tenant period) s = (.ok invoice, t)) :
    invoice.planName = planMap.planName tenant := by
  obtain ⟨stated, t, -, h⟩ := World.run_bind_eq_ok.mp h
  obtain ⟨named, t, hnamed, h⟩ := World.run_bind_eq_ok.mp h
  obtain ⟨usage, t, -, h⟩ := World.run_bind_eq_ok.mp h
  rw [World.run, Prog.run_ofExcept] at hnamed
  cases h
  exact planUnder_eq_ok (congrArg Prod.fst hnamed)

/-- A process without a usage table reads usage `0`. -/
theorem run_invoiceUsage_untabled (tenant : String) :
    quietWorld.run (invoiceUsage { sampleConfig with usageAggregateTable := "" } tenant
      (some "2026-08")) emptyState = (.ok ("2026-08", ⟨"2026-08", 0, 0⟩), emptyState) := rfl

/-- Invoices are labelled where every tenant's plan is in the catalog. -/
theorem neverMislabels_iff :
    NeverMislabels planMap ↔ ∀ tenant, (planMap.planName tenant).Cataloged := by
  constructor
  · intro h tenant
    obtain ⟨invoice, hrun, name, plan, hplan, hname, -⟩ :=
      h _ _ tenant _ _ _ _ (run_invoiceUsage_untabled tenant)
    rw [run_invoiceUnder hrun] at hname
    exact ⟨name, hname, Option.isSome_iff_exists.mpr ⟨plan, hplan⟩⟩
  · intro h config world tenant period read s t hread
    obtain ⟨name, hname, hsome⟩ := h tenant
    obtain ⟨plan, hplan⟩ := Option.isSome_iff_exists.mp hsome
    rw [invoiceUnder_eq (planUnder_cataloged hname hplan), World.run_bind_ok hread]
    exact ⟨_, rfl, name, plan, hplan, rfl, rfl, rfl, rfl, rfl⟩

theorem planName_ofNames (names : List (String × String)) (tenant : String) :
    (PlanMap.ofNames names).planName tenant = .str ((names.lookup tenant).getD defaultPlan) := by
  change ((names.lookup tenant).map Json.str).getD (.str defaultPlan) = _
  cases names.lookup tenant with
  | none => rfl
  | some name => rfl

/-- With names alone, the plan is that of `planForTenant`. -/
theorem planUnder_ofNames (config : Config) (tenant : String) :
    planUnder (.ofNames config.billingPlanMap) tenant =
      .ok ⟨.str (planForTenant config tenant).1, (planForTenant config tenant).2⟩ := by
  rw [planUnder, planName_ofNames]
  rfl

/-- And the invoice that of `calculateInvoice`. -/
theorem invoiceUnder_ofNames (config : Config) (tenant : String) (period : Option String) :
    invoiceUnder config (.ofNames config.billingPlanMap) tenant period =
      Invoice.toNamed <$> calculateInvoice config tenant period := by
  rw [invoiceUnder_eq (planUnder_ofNames config tenant), invoiceUsage, calculateInvoice]
  simp only [bind_assoc, pure_bind, map_bind, map_pure]
  rfl

theorem staticPlanMap_cataloged (tenant : String) :
    (staticPlanMap.planName tenant).Cataloged := by
  refine ⟨_, planName_ofNames _ tenant, ?_⟩
  rw [lookup_entry, lookup_entry, List.lookup_nil]
  by_cases hA : tenant = "TenantA"
  · rw [if_pos hA]
    rfl
  · rw [if_neg hA]
    by_cases hB : tenant = "TenantB"
    · rw [if_pos hB]
      rfl
    · rw [if_neg hB]
      rfl

end Invoice

/-! ## Overrides -/

theorem planName_assign (pairs : List (DictKey × Json)) (tenant : String) :
    PlanMap.planName (Assign.assign staticPlanMap pairs) tenant =
      (Assign.last pairs (.str tenant)).getD (staticPlanMap.planName tenant) := by
  unfold PlanMap.planName
  rw [Assign.assign_apply]
  cases Assign.last pairs (.str tenant) with
  | none => rfl
  | some value => rfl

/-- For every text of the override: configuration is all-or-nothing and invoices are labelled
exactly when tenants are given plans of the catalog, or a rejected override has changed nothing. -/
theorem override_sound_iff (loads : String → Body) (environ : Environ) :
    (∃ planMap, configuredPlanMap loads environ = .ok planMap ∧
      WholeOrStatic (overrideReads loads environ) planMap ∧ NeverMislabels planMap) ↔
      OverrideHolds (overrideReads loads environ) := by
  rw [configuredPlanMap_eq]
  generalize overrideReads loads environ = reads
  simp only [Except.ok.injEq, exists_eq_left', neverMislabels_iff]
  unfold WholeOrStatic OverrideHolds
  cases hwhole : Assign.whole reads with
  | some pairs =>
    rw [Assign.readable_of_whole hwhole]
    simp only [planName_assign, true_and]
    refine forall_congr' fun tenant => ?_
    cases Assign.last pairs (.str tenant) with
    | none => simp [staticPlanMap_cataloged]
    | some value => simp
  | none =>
    simp only
    rw [← Assign.assign_eq_self_iff]
    refine and_iff_left_of_imp fun hsame tenant => ?_
    rw [hsame]
    exact staticPlanMap_cataloged tenant

/-- A process whose environment has an override and nothing else. -/
def overrideEnviron (text : String) : Environ := fun name =>
  if name = "BILLING_PLAN_MAP_JSON" then some text else none

/-- A list whose second element is no pair. -/
def rejectedText : String := "[[\"TenantA\", \"Enterprise\"], 5]"

def rejectedLoads (text : String) : Body :=
  if text = rejectedText then .json (.arr [.arr [.str "TenantA", .str "Enterprise"], .int 5])
  else .malformed

theorem rejected_reads : overrideReads rejectedLoads (overrideEnviron rejectedText) =
    [.ok (.str "TenantA", .str "Enterprise"), .error .typeError] := by
  have hstrip : (overrideEnviron rejectedText).setting "BILLING_PLAN_MAP_JSON" "" =
      rejectedText := by decide
  unfold overrideReads
  rw [hstrip]
  rfl

/-- The rejected override leaves TenantA on another plan. -/
theorem rejected_override_set : ¬ ∀ (loads : String → Body) (environ : Environ),
    ∃ planMap, configuredPlanMap loads environ = .ok planMap ∧
      WholeOrStatic (overrideReads loads environ) planMap ∧ NeverMislabels planMap := by
  intro h
  obtain ⟨planMap, hconfigured, hstatic, -⟩ := h rejectedLoads (overrideEnviron rejectedText)
  rw [configuredPlanMap_eq, rejected_reads] at hconfigured
  rw [rejected_reads] at hstatic
  cases hconfigured
  have hplan := Option.some.inj (congrFun hstatic (.str "TenantA"))
  exact absurd (Json.str.inj hplan) (by decide)

end TenantSaas
