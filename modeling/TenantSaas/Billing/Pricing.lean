import TenantSaas.Billing.Queries
import TenantSaas.Misc.HalfEven

/-!
# What an invoice charges

`calculate_invoice` rounds the overage charge to cents, adds it to the base amount and rounds
once more.  With whole cents to begin with, the second rounding changes nothing.
-/

namespace TenantSaas

open PyDateTime

/-! ## `round(x, 2)` -/

theorem isRound_roundHalfEven (q : ℚ) : HalfEven.IsRound q (roundHalfEven q) := by
  have hfloor := Int.floor_le q
  have hnext := Int.lt_floor_add_one q
  unfold roundHalfEven
  by_cases htie : 2 * (q - ⌊q⌋) = 1
  · rw [if_pos htie]
    by_cases heven : ⌊q⌋ % 2 = 0
    · rw [if_pos heven]
      exact ⟨by linarith, by linarith, fun _ => Int.even_iff.mpr heven⟩
    · rw [if_neg heven]
      refine ⟨by push_cast; linarith, by push_cast; linarith, fun _ => Int.even_iff.mpr ?_⟩
      omega
  · rw [if_neg htie]
    have hlow := Int.floor_le (q + 1 / 2)
    have hhigh := Int.lt_floor_add_one (q + 1 / 2)
    refine ⟨by linarith, by linarith, ?_⟩
    intro h
    exfalso
    -- a tie would put the floor of `q` half a unit below it
    rcases h with h | h
    · have hq : ⌊q⌋ = ⌊q + 1 / 2⌋ - 1 :=
        Int.floor_eq_iff.mpr ⟨by push_cast; linarith, by push_cast; linarith⟩
      rw [hq] at htie
      push_cast at htie
      exact htie (by linarith)
    · linarith

theorem round2_mono {q r : ℚ} (h : q ≤ r) : round2 q ≤ round2 r := by
  have hround : roundHalfEven (q * 100) ≤ roundHalfEven (r * 100) :=
    (isRound_roundHalfEven _).mono (isRound_roundHalfEven _) (by linarith)
  have hcast : (roundHalfEven (q * 100) : ℚ) ≤ roundHalfEven (r * 100) := by
    exact_mod_cast hround
  unfold round2
  linarith

/-- Whole cents stay. -/
theorem round2_cents (k : ℤ) : round2 (k / 100) = k / 100 := by
  have hround := isRound_roundHalfEven ((k : ℚ) / 100 * 100)
  rw [div_mul_cancel₀ _ (by norm_num : (100 : ℚ) ≠ 0)] at hround
  rw [round2, div_mul_cancel₀ _ (by norm_num : (100 : ℚ) ≠ 0), hround.eq_of_intCast]

/-- Half a cent is lost or gained at most. -/
theorem abs_round2_sub_le (q : ℚ) : |round2 q - q| ≤ 5 / 1000 := by
  have hround := (isRound_roundHalfEven (q * 100)).abs_sub_le
  unfold round2
  rw [abs_le] at hround ⊢
  exact ⟨by linarith, by linarith⟩

/-! ## Invoices -/

/-- A plan that can be priced in cents. -/
structure Plan.Sound (plan : Plan) : Prop where
  cents : ∃ k : ℤ, plan.baseAmount = k / 100
  rate : 0 ≤ plan.overageRate

theorem planCatalog_sound {name : String} {plan : Plan} (h : (name, plan) ∈ planCatalog) :
    plan.Sound := by
  simp only [planCatalog, List.mem_cons, Prod.mk.injEq, List.not_mem_nil, or_false] at h
  rcases h with ⟨-, rfl⟩ | ⟨-, rfl⟩ | ⟨-, rfl⟩
  · exact ⟨⟨1000, by norm_num⟩, by norm_num⟩
  · exact ⟨⟨3000, by norm_num⟩, by norm_num⟩
  · exact ⟨⟨10000, by norm_num⟩, by norm_num⟩

/-- What the usage costs before anything is rounded. -/
def Plan.charge (plan : Plan) (units : Int) : ℚ :=
  plan.baseAmount + (max 0 (units - plan.includedRequests) : Int) * plan.overageRate

theorem Plan.Sound.charge_mono {plan : Plan} (sound : plan.Sound) {units units' : Int}
    (h : units ≤ units') : plan.charge units ≤ plan.charge units' := by
  have hmax : max 0 (units - plan.includedRequests) ≤ max 0 (units' - plan.includedRequests) :=
    max_le_max le_rfl (by omega)
  have hcast : ((max 0 (units - plan.includedRequests) : Int) : ℚ) ≤
      (max 0 (units' - plan.includedRequests) : Int) := by exact_mod_cast hmax
  have hmul := mul_le_mul_of_nonneg_right hcast sound.rate
  unfold charge
  linarith

/-- An invoice of a plan for the usage of a month states a total its reader can check. -/
structure FairlyPriced (plan : Plan) (usage : UsageRow) (invoice : Invoice) : Prop where
  period : invoice.billingPeriod = usage.billingMonth
  units : invoice.usageUnits = usage.usageUnits
  base : invoice.baseAmount = plan.baseAmount
  total : invoice.totalAmount = invoice.baseAmount + invoice.usageAmount
  free : invoice.totalAmount = invoice.baseAmount ↔ invoice.usageAmount = 0
  included : usage.usageUnits ≤ plan.includedRequests → invoice.totalAmount = invoice.baseAmount
  close : |invoice.totalAmount - plan.charge usage.usageUnits| ≤ 5 / 1000

/-- `calculate_invoice` with the plan that `_plan_for_tenant` finds left open. -/
def calculateInvoiceUnder (config : Config) (plan : String × Plan) (tenant : String)
    (period : Option String) : App Invoice := do
  let period ← periodOrCurrent period
  let usage ← getTenantUsage config tenant (some period)
  pure (priceInvoice tenant period plan usage)

theorem calculateInvoice_eq_under (config : Config) (tenant : String) (period : Option String) :
    calculateInvoice config tenant period =
      calculateInvoiceUnder config (planForTenant config tenant) tenant period := rfl

section Pricing

variable {tenant tenant' period period' name : String} {plan : Plan} {usage usage' : UsageRow}

/-- The second rounding has nothing to round. -/
theorem priceInvoice_total (sound : plan.Sound) (tenant period name : String)
    (usage : UsageRow) :
    (priceInvoice tenant period (name, plan) usage).totalAmount = plan.baseAmount +
      (priceInvoice tenant period (name, plan) usage).usageAmount := by
  obtain ⟨k, hk⟩ := sound.cents
  simp only [priceInvoice]
  generalize ((max 0 (usage.usageUnits - plan.includedRequests) : Int) : ℚ) * plan.overageRate = q
  have hsum : plan.baseAmount + round2 q = ((k + roundHalfEven (q * 100) : ℤ) : ℚ) / 100 := by
    rw [hk, round2]
    push_cast
    ring
  rw [hsum, round2_cents]

/-- More units cost no less. -/
theorem priceInvoice_mono (sound : plan.Sound) (h : usage.usageUnits ≤ usage'.usageUnits) :
    (priceInvoice tenant period (name, plan) usage).totalAmount ≤
      (priceInvoice tenant' period' (name, plan) usage').totalAmount := by
  have hcharge := sound.charge_mono h
  have hround := round2_mono
    (show ((max 0 (usage.usageUnits - plan.includedRequests) : Int) : ℚ) * plan.overageRate ≤
        (max 0 (usage'.usageUnits - plan.includedRequests) : Int) * plan.overageRate by
      unfold Plan.charge at hcharge
      linarith)
  rw [priceInvoice_total sound, priceInvoice_total sound]
  simp only [priceInvoice]
  linarith

theorem priceInvoice_fairlyPriced (sound : plan.Sound) (tenant name : String)
    (usage : UsageRow) :
    FairlyPriced plan usage (priceInvoice tenant usage.billingMonth (name, plan) usage) where
  period := rfl
  units := rfl
  base := rfl
  total := priceInvoice_total sound tenant usage.billingMonth name usage
  free := by
    rw [priceInvoice_total sound]
    exact add_eq_left
  included := by
    intro h
    have hmax : max 0 (usage.usageUnits - plan.includedRequests) = 0 := max_eq_left (by omega)
    have hzero : round2 0 = 0 := by simpa using round2_cents 0
    rw [priceInvoice_total sound]
    simp only [priceInvoice, hmax, Int.cast_zero, zero_mul, hzero, add_zero]
  close := by
    rw [priceInvoice_total sound]
    simp only [priceInvoice, Plan.charge, add_sub_add_left_eq_sub]
    exact abs_round2_sub_le _

theorem planForTenant_sound (config : Config) (tenant : String) :
    (planForTenant config tenant).2.Sound := by
  simp only [planForTenant]
  cases hplan : planCatalog.lookup
      ((config.billingPlanMap.lookup tenant).getD defaultPlan) with
  | none => exact planCatalog_sound (List.mem_cons_self)
  | some plan =>
    obtain ⟨before, after, hcatalog, -⟩ := List.lookup_eq_some_iff.mp hplan
    exact planCatalog_sound (hcatalog ▸ List.mem_append_right before List.mem_cons_self)

end Pricing

/-! ## The usage of an invoice -/

section Usage

variable {config : Config} {tenant : String}

/-- The period is settled once. -/
theorem periodOrCurrent_again {α : Type} (asked : Option String) (f : String → String → App α) :
    (do
      let period ← periodOrCurrent asked
      let again ← periodOrCurrent (some period)
      f period again) = (do
      let period ← periodOrCurrent asked
      f period period) := by
  have hsome : ∀ period, period ≠ "" → periodOrCurrent (some period) = pure period :=
    fun period hperiod => if_neg hperiod
  have hcurrent : (currentBillingPeriod >>= fun period => periodOrCurrent (some period) >>=
      f period) = currentBillingPeriod >>= fun period => f period period := by
    simp only [currentBillingPeriod, bind_assoc, pure_bind, hsome _ (strftimeMonth_ne _)]
  cases asked with
  | none => exact hcurrent
  | some period =>
    by_cases hperiod : period = ""
    · rw [periodOrCurrent, if_pos hperiod]
      exact hcurrent
    · simp only [hsome period hperiod, pure_bind]

/-- The usage is that of the month it is asked for. -/
theorem usageFor_billingMonth (rows : List UsageRow) (period : String) :
    (usageFor rows period).billingMonth = period := by
  unfold usageFor
  cases hfind : rows.find? fun row => row.billingMonth == period with
  | none => rfl
  | some row =>
    have hmonth := List.find?_some hfind
    exact eq_of_beq hmonth

/-- An invoice prices what `get_tenant_usage` returns for the same period. -/
theorem calculateInvoiceUnder_eq (plan : String × Plan) (asked : Option String) :
    calculateInvoiceUnder config plan tenant asked = (do
      let usage ← getTenantUsage config tenant asked
      pure (priceInvoice tenant usage.billingMonth plan usage)) := by
  unfold calculateInvoiceUnder getTenantUsage
  simp only [bind_assoc, pure_bind, usageFor_billingMonth]
  exact periodOrCurrent_again asked fun period again => do
    let rows ← queryTenantAggregates config tenant
    pure (priceInvoice tenant period plan (usageFor rows again))

theorem run_calculateInvoiceUnder {world : World} {plan : String × Plan} {asked : Option String}
    {s t : AppState} {invoice : Invoice}
    (h : world.run (calculateInvoiceUnder config plan tenant asked) s = (.ok invoice, t)) :
    ∃ usage, world.run (getTenantUsage config tenant asked) s = (.ok usage, t) ∧
      invoice = priceInvoice tenant usage.billingMonth plan usage := by
  rw [calculateInvoiceUnder_eq] at h
  obtain ⟨usage, u, husage, h⟩ := World.run_bind_eq_ok.mp h
  cases h
  exact ⟨usage, husage, rfl⟩

end Usage

/-- The invoice of a tenant is calculated under a plan in cents.  Under any such plan, an invoice
is for the month and the units that `get_tenant_usage` returns then; it states its total exactly,
is free within the quota, is off by half a cent at most, and is no higher than any invoice under
the plan for as many units or more. -/
theorem pricing_fair (config : Config) (tenant : String) :
    (planForTenant config tenant).2.Sound ∧
    (∀ asked, calculateInvoice config tenant asked =
      calculateInvoiceUnder config (planForTenant config tenant) tenant asked) ∧
    ∀ (plan : String × Plan) (world : World) (asked : Option String) (s t : AppState)
      (invoice : Invoice), plan.2.Sound →
      world.run (calculateInvoiceUnder config plan tenant asked) s = (.ok invoice, t) →
      (∃ usage, world.run (getTenantUsage config tenant asked) s = (.ok usage, t) ∧
        FairlyPriced plan.2 usage invoice) ∧
      ∀ (config' : Config) (tenant' : String) (world' : World) (asked' : Option String)
        (s' t' : AppState) (invoice' : Invoice),
        world'.run (calculateInvoiceUnder config' plan tenant' asked') s' = (.ok invoice', t') →
        invoice.usageUnits ≤ invoice'.usageUnits → invoice.totalAmount ≤ invoice'.totalAmount := by
  refine ⟨planForTenant_sound config tenant, calculateInvoice_eq_under config tenant, ?_⟩
  intro plan world asked s t invoice sound h
  obtain ⟨name, plan⟩ := plan
  obtain ⟨usage, husage, rfl⟩ := run_calculateInvoiceUnder h
  refine ⟨⟨usage, husage, priceInvoice_fairlyPriced sound tenant name usage⟩, ?_⟩
  intro config' tenant' world' asked' s' t' invoice' h' hunits
  obtain ⟨usage', -, rfl⟩ := run_calculateInvoiceUnder h'
  exact priceInvoice_mono sound hunits

/-- Thirty requests over the basic quota cost 10.5 cents. -/
example : round2 (30 * (35 / 10000)) = 10 / 100 := by norm_num [round2, roundHalfEven]

/-- TenantB has used some units in August. -/
def usedState (units : Int) : AppState := { emptyState with
  aggregate :=
    [⟨"TENANT#TenantB", "MONTH#2026-08", units, units, .str "TenantB", "2026-08"⟩] }

/-- The invoice that TenantB then gets. -/
def augustInvoice (units : Int) : Invoice :=
  priceInvoice "TenantB" "2026-08" ("Basic", basicPlan) ⟨"2026-08", units, units⟩

theorem run_augustInvoice (units : Int) : quietWorld.run
    (calculateInvoice sampleConfig "TenantB" (some "2026-08")) (usedState units) =
      (.ok (augustInvoice units), { usedState units with tick := 1 }) := by
  have hrows : sortedRows (usedState units).aggregate "TenantB" = [⟨"2026-08", units, units⟩] :=
    List.mergeSort_singleton _
  rw [run_calculateInvoice_some ⟨rfl, by decide⟩ quietWorld "TenantB" (by decide) (usedState units)]
  show ((Except.ok (sortedRows (usedState units).aggregate "TenantB")).map _, _) = _
  rw [hrows]
  rfl

/-- Twenty requests more in August. -/
theorem basic_plan_grows : ∃ invoice invoice' t t',
    quietWorld.run (calculateInvoice sampleConfig "TenantB" (some "2026-08")) (usedState 5010) =
      (.ok invoice, t) ∧
    quietWorld.run (calculateInvoice sampleConfig "TenantB" (some "2026-08")) (usedState 5030) =
      (.ok invoice', t') ∧
    invoice.usageUnits = 5010 ∧ invoice'.usageUnits = 5030 ∧
    invoice.totalAmount ≤ invoice'.totalAmount := by
  obtain ⟨hsound, -, hpriced⟩ := pricing_fair sampleConfig "TenantB"
  refine ⟨_, _, _, _, run_augustInvoice 5010, run_augustInvoice 5030, rfl, rfl, ?_⟩
  exact (hpriced _ quietWorld (some "2026-08") (usedState 5010) _ _ hsound
    (run_augustInvoice 5010)).2 sampleConfig "TenantB" quietWorld (some "2026-08") (usedState 5030)
    _ _ (run_augustInvoice 5030) (by decide)

end TenantSaas
