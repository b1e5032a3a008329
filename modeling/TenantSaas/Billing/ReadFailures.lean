import TenantSaas.Billing.Queries

/-!
# Bills under read failures

`_query_tenant_aggregates` returns the same empty list for a failed query and for a tenant
without usage.  `get_invoices` lists the months with one query and prices each of them with
another, so that a month can be listed for its usage and billed for none.
-/

namespace TenantSaas

open PyDateTime

/-- What the billing routes ask `billing_service` for. -/
inductive BillingRequest where
  | invoice (period : Option String)
  | history (limit : Nat)

def BillingRequest.run (config : Config) (tenant : String) : BillingRequest → App (List Invoice)
  | invoice period => do
    let invoice ← calculateInvoice config tenant period
    pure [invoice]
  | history limit => getInvoices config tenant limit

/-- The month of an invoice, and the tick of the query that prices it. -/
def World.asked (world : World) (n : Nat) : Option String → String × Nat
  | some period => if period = "" then (strftimeMonth (world.now n), n + 1) else (period, n)
  | none => (strftimeMonth (world.now n), n + 1)

/-- No invoice states less than the partition holds. -/
def NeverLower (items : List AggregateItem) (tenant : String) (invoices : List Invoice) : Prop :=
  ∀ invoice ∈ invoices, ∀ item ∈ tenantItems items tenant,
    item.billingMonth = invoice.billingPeriod → item.usageUnits ≤ invoice.usageUnits

/-- The rows a history is listed for. -/
def listedRows (items : List AggregateItem) (tenant : String) (limit : Nat) : List UsageRow :=
  (sortedRows items tenant).take limit

/-- A history whose months are listed from rows states what these rows hold. -/
def StatesRows (world : World) (items : List AggregateItem) (tenant : String) (n : Nat)
    (request : BillingRequest) (invoices : List Invoice) : Prop :=
  ∀ limit, request = .history limit → world.queryRows items tenant n =
      .ok (sortedRows items tenant) → sortedRows items tenant ≠ [] →
    invoices.map Invoice.usageUnits = (listedRows items tenant limit).map UsageRow.usageUnits

def NothingUsed (items : List AggregateItem) (tenant period : String) : Prop :=
  ∀ item ∈ tenantItems items tenant, item.billingMonth = period → item.usageUnits ≤ 0

/-- No query is lost whose month was used, or another exception lets nothing be returned. -/
def LosesNothing (world : World) (items : List AggregateItem) (tenant : String) (n : Nat) :
    BillingRequest → Prop
  | .invoice period => world.LosesQuery tenant (world.asked n period).2 →
    NothingUsed items tenant (world.asked n period).1
  | .history limit =>
    (world.LosesQuery tenant n → world.LosesQuery tenant (n + 2) →
      NothingUsed items tenant (strftimeMonth (world.now (n + 1)))) ∧
    (¬ world.LosesQuery tenant n → ¬ world.RaisesQuery tenant n →
      (∃ i < (listedRows items tenant limit).length, world.RaisesQuery tenant (n + 1 + i)) ∨
      ∀ i row, (listedRows items tenant limit)[i]? = some row →
        world.LosesQuery tenant (n + 1 + i) → row.usageUnits = 0)

section Invoice

variable {config : Config} {world : World} {tenant : String} {s : AppState}

theorem asked_named (world : World) (n : Nat) (period : Option String) : (world.asked n period).1 ≠ "" := by
  unfold World.asked
  cases period with
  | none => exact strftimeMonth_ne _
  | some period =>
    by_cases hperiod : period = ""
    · simp only [hperiod, if_true]
      exact strftimeMonth_ne _
    · simp only [hperiod, if_false]
      exact hperiod

theorem run_periodOrCurrent (period : Option String) (s : AppState) :
    world.run (periodOrCurrent period) s =
      (.ok (world.asked s.tick period).1, { s with tick := (world.asked s.tick period).2 }) := by
  unfold periodOrCurrent World.asked
  cases period with
  | none => rfl
  | some period =>
    by_cases hperiod : period = ""
    · simp only [hperiod, if_true]
      rfl
    · simp only [hperiod, if_false]
      rfl

theorem run_calculateInvoice_asked (billed : config.Billed) (tenant : String)
    (period : Option String) (s : AppState) :
    (world.run (BillingRequest.run config tenant (.invoice period)) s).1 =
      world.pricedRow config s.aggregate tenant (world.asked s.tick period).2
        (world.asked s.tick period).1 := by
  have hsome := run_calculateInvoice_some billed world tenant
    (asked_named world s.tick period) { s with tick := (world.asked s.tick period).2 }
  have hperiod : periodOrCurrent (some (world.asked s.tick period).1) =
      pure (world.asked s.tick period).1 := by
    rw [periodOrCurrent, if_neg (asked_named world s.tick period)]
  have hinvoice : world.run (calculateInvoice config tenant period) s =
      world.run (calculateInvoice config tenant (some (world.asked s.tick period).1))
        { s with tick := (world.asked s.tick period).2 } := by
    unfold calculateInvoice
    rw [hperiod, pure_bind, World.run_bind_ok (run_periodOrCurrent period s)]
  unfold BillingRequest.run World.pricedRow
  rw [hsome] at hinvoice
  cases hrows : world.queryRows s.aggregate tenant (world.asked s.tick period).2 with
  | error e =>
    rw [hrows] at hinvoice
    rw [World.run_bind_error hinvoice]
    rfl
  | ok rows =>
    rw [hrows] at hinvoice
    rw [World.run_bind_ok hinvoice]
    rfl

/-- An invoice priced from the rows there are states what its month holds; one priced from no
rows states nothing. -/
theorem neverLower_priced (monthly : MonthlyRows s.aggregate tenant) (period : String)
    (plan : String × Plan) : NeverLower s.aggregate tenant
      [priceInvoice tenant period plan (usageFor (sortedRows s.aggregate tenant) period)] := by
  intro invoice hinvoice item hitem hmonth
  cases List.mem_singleton.mp hinvoice
  have hrow : UsageRow.ofItem item ∈ sortedRows s.aggregate tenant :=
    mem_sortedRows.mpr ⟨item, hitem, rfl⟩
  have hfound := monthly.usageFor_row hrow
  have hperiod : (UsageRow.ofItem item).billingMonth = period := hmonth
  rw [hperiod] at hfound
  simp only [priceInvoice, hfound]
  exact le_rfl

theorem neverLower_unread {items : List AggregateItem} (period : String) (plan : String × Plan) :
    NeverLower items tenant [priceInvoice tenant period plan (usageFor [] period)] ↔
      NothingUsed items tenant period := by
  constructor
  · intro h item hitem hmonth
    exact h _ (List.mem_singleton_self _) item hitem hmonth
  · intro h invoice hinvoice item hitem hmonth
    cases List.mem_singleton.mp hinvoice
    exact h item hitem hmonth

/-- The only invoice of a month, whatever its query does. -/
theorem neverLower_iff (monthly : MonthlyRows s.aggregate tenant) (period : String) (n : Nat) :
    (∀ invoices, world.pricedRow config s.aggregate tenant n period = .ok invoices →
      NeverLower s.aggregate tenant invoices) ↔
    (world.LosesQuery tenant n → NothingUsed s.aggregate tenant period) := by
  unfold World.pricedRow
  by_cases hloses : world.LosesQuery tenant n
  · rw [queryRows_of_loses hloses]
    constructor
    · intro h _
      exact (neverLower_unread period _).mp (h _ rfl)
    · intro h invoices hinvoices
      cases hinvoices
      exact (neverLower_unread period _).mpr (h hloses)
  · refine iff_of_true ?_ fun h => absurd h hloses
    intro invoices hinvoices
    by_cases hraises : world.RaisesQuery tenant n
    · obtain ⟨e, he⟩ := queryRows_of_raises s.aggregate hraises
      rw [he] at hinvoices
      cases hinvoices
    · rw [queryRows_of_answers hloses hraises] at hinvoices
      cases hinvoices
      exact neverLower_priced monthly period _

end Invoice

section History

variable {config : Config} {world : World} {items : List AggregateItem} {tenant : String}
  {listed : List UsageRow} {invoices : List Invoice} {n : Nat}

theorem pricedRows_raises {periods : List String} {i : Nat} (hi : i < periods.length)
    (h : world.RaisesQuery tenant (n + i)) :
    ∃ e, world.pricedRows config items tenant n periods = .error e := by
  induction periods generalizing n i with
  | nil => cases hi
  | cons period periods ih =>
    unfold World.pricedRows
    cases hrows : world.queryRows items tenant n with
    | error e => exact ⟨e, rfl⟩
    | ok rows =>
      cases i with
      | zero =>
        obtain ⟨e, he⟩ := queryRows_of_raises items h
        rw [Nat.add_zero, hrows] at he
        cases he
      | succ i =>
        rw [Nat.add_succ, ← Nat.succ_add] at h
        obtain ⟨e, he⟩ := ih (Nat.lt_of_succ_lt_succ hi) h
        exact ⟨e, by rw [he]; rfl⟩

theorem pricedRows_total {periods : List String}
    (h : ∀ i < periods.length, ¬ world.RaisesQuery tenant (n + i)) :
    ∃ invoices, world.pricedRows config items tenant n periods = .ok invoices := by
  induction periods generalizing n with
  | nil => exact ⟨[], rfl⟩
  | cons period periods ih =>
    have hfirst : ∃ rows, world.queryRows items tenant n = .ok rows := by
      by_cases hloses : world.LosesQuery tenant n
      · exact ⟨[], queryRows_of_loses hloses⟩
      · exact ⟨_, queryRows_of_answers hloses (h 0 (Nat.succ_pos _))⟩
    obtain ⟨rows, hrows⟩ := hfirst
    obtain ⟨invoices, hinvoices⟩ := @ih (n + 1) fun i hi => by
      have hi' := h (i + 1) (Nat.succ_lt_succ hi)
      rwa [Nat.add_assoc, Nat.add_comm 1 i]
    unfold World.pricedRows
    rw [hrows, hinvoices]
    exact ⟨_, rfl⟩

/-- A query whose outcome is returned finds the units of a row, unless it is lost for a row in
use. -/
theorem MonthlyRows.units_iff (monthly : MonthlyRows items tenant) {row : UsageRow}
    {rows : List UsageRow} (hrow : row ∈ sortedRows items tenant)
    (hrows : world.queryRows items tenant n = .ok rows) :
    (usageFor rows row.billingMonth).usageUnits = row.usageUnits ↔
      (world.LosesQuery tenant n → row.usageUnits = 0) := by
  by_cases hloses : world.LosesQuery tenant n
  · rw [queryRows_of_loses hloses] at hrows
    cases hrows
    exact ⟨fun heq _ => heq.symm, fun hzero => (hzero hloses).symm⟩
  · refine iff_of_true ?_ fun h => absurd h hloses
    by_cases hraises : world.RaisesQuery tenant n
    · obtain ⟨e, he⟩ := queryRows_of_raises items hraises
      rw [he] at hrows
      cases hrows
    · rw [queryRows_of_answers hloses hraises] at hrows
      cases hrows
      rw [monthly.usageFor_row hrow]

/-- The invoices of listed rows keep their months, and their units where no query is lost for a
row in use. -/
theorem pricedRows_listed (monthly : MonthlyRows items tenant)
    (hlisted : ∀ row ∈ listed, row ∈ sortedRows items tenant)
    (h : world.pricedRows config items tenant n (listed.map UsageRow.billingMonth) =
      .ok invoices) :
    invoices.map Invoice.billingPeriod = listed.map UsageRow.billingMonth ∧
      (invoices.map Invoice.usageUnits = listed.map UsageRow.usageUnits ↔
        ∀ i row, listed[i]? = some row → world.LosesQuery tenant (n + i) →
          row.usageUnits = 0) := by
  induction listed generalizing n invoices with
  | nil =>
    cases h
    exact ⟨rfl, iff_of_true rfl fun i row hi => by simp at hi⟩
  | cons row listed ih =>
    obtain ⟨hrow, hrest⟩ := List.forall_mem_cons.mp hlisted
    obtain ⟨rows, hrows, h⟩ := exceptBind_eq_ok.mp h
    obtain ⟨others, hothers, h⟩ := exceptBind_eq_ok.mp h
    cases h
    obtain ⟨hmonths, hunits⟩ := ih hrest hothers
    have hfirst := monthly.units_iff hrow hrows
    refine ⟨congrArg (List.cons row.billingMonth) hmonths, ?_⟩
    simp only [List.map_cons, List.cons.injEq, hunits]
    constructor
    · intro hall i found hi
      cases i with
      | zero =>
        cases hi
        exact hfirst.mp hall.1
      | succ i =>
        rw [Nat.add_succ, ← Nat.succ_add]
        exact hall.2 i found hi
    · intro hall
      refine ⟨hfirst.mpr (hall 0 row rfl), ?_⟩
      intro i found hi
      rw [Nat.add_assoc, Nat.add_comm 1 i]
      exact hall (i + 1) found hi

/-- Invoices that state their rows state no less than the partition holds. -/
theorem neverLower_of_states (monthly : MonthlyRows items tenant)
    (hlisted : ∀ row ∈ listed, row ∈ sortedRows items tenant)
    (hmonths : invoices.map Invoice.billingPeriod = listed.map UsageRow.billingMonth)
    (hunits : invoices.map Invoice.usageUnits = listed.map UsageRow.usageUnits) :
    NeverLower items tenant invoices := by
  intro invoice hinvoice item hitem hmonth
  obtain ⟨i, hi⟩ := List.mem_iff_getElem?.mp hinvoice
  have hperiod := congrArg (fun months => months[i]?) hmonths
  have hstated := congrArg (fun units => units[i]?) hunits
  simp only [List.getElem?_map, hi, Option.map_some] at hperiod hstated
  obtain ⟨row, hrow, hrow_month⟩ := Option.map_eq_some_iff.mp hperiod.symm
  rw [hrow, Option.map_some, Option.some.injEq] at hstated
  have hheld := monthly.usageFor_row (hlisted row (List.mem_of_getElem? hrow))
  have hitem' := monthly.usageFor_row (mem_sortedRows.mpr ⟨item, hitem, rfl⟩)
  have hsame : (UsageRow.ofItem item).billingMonth = row.billingMonth :=
    hmonth.trans hrow_month.symm
  rw [hsame, hheld] at hitem'
  rw [hstated, hitem']
  exact le_rfl

/-- Where rows are listed, their queries decide. -/
theorem listed_iff (monthly : MonthlyRows items tenant) {limit : Nat}
    (hanswers : world.queryRows items tenant n = .ok (sortedRows items tenant))
    (hrows : sortedRows items tenant ≠ []) :
    (∀ invoices, world.pricedRows config items tenant (n + 1)
        ((listedRows items tenant limit).map UsageRow.billingMonth) = .ok invoices →
      NeverLower items tenant invoices ∧
        StatesRows world items tenant n (.history limit) invoices) ↔
    ((∃ i < (listedRows items tenant limit).length, world.RaisesQuery tenant (n + 1 + i)) ∨
      ∀ i row, (listedRows items tenant limit)[i]? = some row →
        world.LosesQuery tenant (n + 1 + i) → row.usageUnits = 0) := by
  have hlisted : ∀ row ∈ listedRows items tenant limit, row ∈ sortedRows items tenant :=
    fun row hrow => List.mem_of_mem_take hrow
  constructor
  · intro h
    by_cases hraises : ∃ i < (listedRows items tenant limit).length,
        world.RaisesQuery tenant (n + 1 + i)
    · exact .inl hraises
    · right
      obtain ⟨invoices, hinvoices⟩ := @pricedRows_total config world items tenant (n + 1)
        ((listedRows items tenant limit).map UsageRow.billingMonth) fun i hi hi' =>
          hraises ⟨i, by simpa using hi, hi'⟩
      have hstates := (h invoices hinvoices).2 limit rfl hanswers hrows
      exact (pricedRows_listed monthly hlisted hinvoices).2.mp hstates
  · intro h invoices hinvoices
    obtain ⟨hmonths, hunits⟩ := pricedRows_listed monthly hlisted hinvoices
    rcases h with ⟨i, hi, hraises⟩ | hzero
    · obtain ⟨e, he⟩ := @pricedRows_raises config world items tenant (n + 1)
        ((listedRows items tenant limit).map UsageRow.billingMonth) i (by simpa using hi) hraises
      rw [hinvoices] at he
      cases he
    · have hstates := hunits.mpr hzero
      refine ⟨neverLower_of_states monthly hlisted hmonths hstates, ?_⟩
      intro limit' hlimit _ _
      cases hlimit
      exact hstates

/-- Without listed rows there is nothing to state. -/
theorem current_iff {s : AppState} (monthly : MonthlyRows s.aggregate tenant) {limit : Nat}
    (hunlisted : world.queryRows s.aggregate tenant n = .ok (sortedRows s.aggregate tenant) →
      sortedRows s.aggregate tenant = []) (period : String) :
    (∀ invoices, world.pricedRow config s.aggregate tenant (n + 2) period = .ok invoices →
      NeverLower s.aggregate tenant invoices ∧
        StatesRows world s.aggregate tenant n (.history limit) invoices) ↔
    (world.LosesQuery tenant (n + 2) → NothingUsed s.aggregate tenant period) := by
  rw [← @neverLower_iff config world tenant s monthly]
  constructor
  · intro h invoices hinvoices
    exact (h invoices hinvoices).1
  · intro h invoices hinvoices
    exact ⟨h invoices hinvoices, fun _ _ hanswers hrows => absurd (hunlisted hanswers) hrows⟩

/-- The history is right when no query is lost for a row in use. -/
theorem history_iff {s : AppState} (monthly : MonthlyRows s.aggregate tenant) (limit : Nat) :
    (∀ invoices, world.historyRows config s.aggregate tenant n limit = .ok invoices →
      NeverLower s.aggregate tenant invoices ∧
        StatesRows world s.aggregate tenant n (.history limit) invoices) ↔
    LosesNothing world s.aggregate tenant n (.history limit) := by
  unfold World.historyRows LosesNothing
  by_cases hloses : world.LosesQuery tenant n
  · rw [queryRows_of_loses hloses]
    refine (current_iff monthly ?_ _).trans ?_
    · intro hanswers
      rw [queryRows_of_loses hloses, Except.ok.injEq] at hanswers
      exact hanswers.symm
    · exact ⟨fun h => ⟨fun _ => h, fun hnot => absurd hloses hnot⟩, fun h => h.1 hloses⟩
  by_cases hraises : world.RaisesQuery tenant n
  · obtain ⟨e, he⟩ := queryRows_of_raises s.aggregate hraises
    rw [he]
    refine iff_of_true ?_ ⟨fun h => absurd h hloses, fun _ h => absurd hraises h⟩
    intro invoices h
    cases h
  have hanswers : world.queryRows s.aggregate tenant n = .ok (sortedRows s.aggregate tenant) :=
    queryRows_of_answers hloses hraises
  rw [hanswers]
  by_cases hrows : sortedRows s.aggregate tenant = []
  · -- an empty partition holds nothing for any month
    have hnone : ∀ period, NothingUsed s.aggregate tenant period := by
      intro period item hitem
      have hrow := mem_sortedRows.mpr ⟨item, hitem, rfl⟩
      rw [hrows] at hrow
      cases hrow
    have hlisted : listedRows s.aggregate tenant limit = [] := by
      rw [listedRows, hrows, List.take_nil]
    refine iff_of_true ?_ ?_
    · rw [hrows]
      exact (current_iff monthly (fun _ => hrows) _).mpr fun _ => hnone _
    · refine ⟨fun h => absurd h hloses, fun _ _ => .inr ?_⟩
      intro i row hi
      rw [hlisted] at hi
      simp at hi
  · have hempty : (sortedRows s.aggregate tenant).isEmpty = false := by
      simpa using hrows
    change (∀ invoices, ite ((sortedRows s.aggregate tenant).isEmpty = true) _ _ = _ → _) ↔ _
    rw [hempty, if_neg Bool.false_ne_true]
    refine (listed_iff monthly hanswers hrows).trans ?_
    exact ⟨fun h => ⟨fun hnot => absurd hnot hloses, fun _ _ => h⟩, fun h => h.2 hloses hraises⟩

end History

/-- Whatever is returned states no less than the partition holds, and a history the units of its
rows, exactly when no query is lost for a month in use. -/
theorem losesNothing_iff (config : Config) (world : World) (tenant : String) (s : AppState)
    (request : BillingRequest) (billed : config.Billed)
    (monthly : MonthlyRows s.aggregate tenant) :
    (∀ invoices, (world.run (request.run config tenant) s).1 = .ok invoices →
      NeverLower s.aggregate tenant invoices ∧
        StatesRows world s.aggregate tenant s.tick request invoices) ↔
    LosesNothing world s.aggregate tenant s.tick request := by
  cases request with
  | invoice period =>
    rw [run_calculateInvoice_asked billed]
    refine Iff.trans ?_ (@neverLower_iff config world tenant s monthly _ _)
    constructor
    · intro h invoices hinvoices
      exact (h invoices hinvoices).1
    · intro h invoices hinvoices
      refine ⟨h invoices hinvoices, ?_⟩
      intro limit hlimit
      cases hlimit
  | history limit =>
    rw [BillingRequest.run, run_getInvoices billed monthly]
    exact history_iff monthly limit

theorem losesNothing_of_reads {world : World} (hreads : world.Reads) (items : List AggregateItem)
    (tenant : String) (n : Nat) (request : BillingRequest) :
    LosesNothing world items tenant n request := by
  have hloses : ∀ n, ¬ world.LosesQuery tenant n := by
    intro n h
    obtain ⟨e, he, -⟩ := h
    rw [hreads] at he
    cases he
  cases request with
  | invoice period => exact fun h => absurd h (hloses _)
  | history limit =>
    exact ⟨fun h => absurd h (hloses _), fun _ _ => .inr fun _ _ _ h => absurd h (hloses _)⟩

/-- Seven units of one month. -/
def augustItem : AggregateItem :=
  ⟨"TENANT#TenantA", "MONTH#2026-08", 7, 7, .str "TenantA", "2026-08"⟩

def augustState : AppState := { emptyState with aggregate := [augustItem] }

/-- The second query fails. -/
def lossyWorld : World :=
  { quietWorld with
    fault := fun n op =>
      match op with
      | .queryAggregates _ => if n = 1 then some .botoCoreError else none
      | _ => none }

theorem augustState_monthly : MonthlyRows augustState.aggregate "TenantA" :=
  ⟨by decide, by decide⟩

theorem sampleConfig_billed : sampleConfig.Billed := ⟨rfl, by decide⟩

theorem augustState_sorted :
    sortedRows augustState.aggregate "TenantA" = [⟨"2026-08", 7, 7⟩] :=
  List.mergeSort_singleton _

/-- Where every query is answered, the history of August is right. -/
theorem august_history_right : ∃ invoices,
    (quietWorld.run (getInvoices sampleConfig "TenantA" 12) augustState).1 = .ok invoices ∧
      NeverLower augustState.aggregate "TenantA" invoices := by
  have hreads : quietWorld.Reads := fun _ _ => rfl
  have hrows : sortedRows augustState.aggregate "TenantA" ≠ [] := by
    rw [augustState_sorted]
    exact List.cons_ne_nil _ _
  have hrun := run_getInvoices_reads sampleConfig_billed hreads augustState_monthly hrows 12
  have hright := (losesNothing_iff sampleConfig quietWorld "TenantA" augustState (.history 12)
    sampleConfig_billed augustState_monthly).mpr (losesNothing_of_reads hreads _ _ _ _)
  exact ⟨_, hrun, (hright _ hrun).1⟩

/-- August is listed for its seven units and billed for none. -/
theorem august_billed_for_none : ¬ ∀ (config : Config) (world : World) (tenant : String)
    (s : AppState) (request : BillingRequest), config.Billed →
    MonthlyRows s.aggregate tenant →
    ∀ invoices, (world.run (request.run config tenant) s).1 = .ok invoices →
      NeverLower s.aggregate tenant invoices ∧
        StatesRows world s.aggregate tenant s.tick request invoices := by
  intro h
  have hlisted := h sampleConfig lossyWorld "TenantA" augustState (.history 12)
    sampleConfig_billed augustState_monthly
  rw [BillingRequest.run, run_getInvoices sampleConfig_billed augustState_monthly,
    history_iff augustState_monthly] at hlisted
  have hrows : listedRows augustState.aggregate "TenantA" 12 = [⟨"2026-08", 7, 7⟩] := by
    rw [listedRows, augustState_sorted]
    rfl
  have hanswers : lossyWorld.fault 0 (.queryAggregates (partitionKey "TenantA")) = none := rfl
  have hloses : ¬ lossyWorld.LosesQuery "TenantA" 0 := by
    intro hloses
    obtain ⟨e, he, -⟩ := hloses
    rw [hanswers] at he
    cases he
  have hraises : ¬ lossyWorld.RaisesQuery "TenantA" 0 := by
    intro hraises
    obtain ⟨e, he, -⟩ := hraises
    rw [hanswers] at he
    cases he
  have hlost : lossyWorld.LosesQuery "TenantA" 1 := ⟨.botoCoreError, rfl, rfl⟩
  rcases hlisted.2 hloses hraises with ⟨i, hi, hraised⟩ | hzero
  · rw [hrows] at hi
    obtain rfl : i = 0 := Nat.lt_one_iff.mp hi
    exact not_raises_of_loses hlost hraised
  · exact absurd (hzero 0 ⟨"2026-08", 7, 7⟩ (by rw [hrows]; rfl) hlost) (by decide)

end TenantSaas
