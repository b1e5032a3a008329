import TenantSaas.Metering.BillingReads

/-!
# The queries behind an invoice

Each call of `_query_tenant_aggregates` reads the same partition, unless its query fails: then it
reads nothing, or raises.  An invoice is priced from the row its own query finds.
-/

namespace TenantSaas

open PyDateTime

/-- Usage is read from the aggregate table. -/
structure Config.Billed (config : Config) : Prop where
  demoMode : config.demoMode = false
  table : config.usageAggregateTable ≠ ""

/-- The items of a tenant's partition. -/
def tenantItems (items : List AggregateItem) (tenant : String) : List AggregateItem :=
  items.filter fun item => item.pk == partitionKey tenant

/-- One row for each month. -/
structure MonthlyRows (items : List AggregateItem) (tenant : String) : Prop where
  distinct : ((tenantItems items tenant).map AggregateItem.billingMonth).Nodup
  named : ∀ item ∈ tenantItems items tenant, item.billingMonth ≠ ""

/-- The exceptions `_query_tenant_aggregates` handles. -/
def PyError.isQueryFailure : PyError → Bool
  | .botoCoreError => true
  | .clientError _ => true
  | _ => false

/-- The query at a tick fails, and nobody is told. -/
def World.LosesQuery (world : World) (tenant : String) (n : Nat) : Prop :=
  ∃ e, world.fault n (.queryAggregates (partitionKey tenant)) = some e ∧ e.isQueryFailure = true

/-- The query at a tick fails with an exception that is not handled. -/
def World.RaisesQuery (world : World) (tenant : String) (n : Nat) : Prop :=
  ∃ e, world.fault n (.queryAggregates (partitionKey tenant)) = some e ∧ e.isQueryFailure = false

/-- What `_query_tenant_aggregates` makes of the query at a tick. -/
def World.queryRows (world : World) (items : List AggregateItem) (tenant : String) (n : Nat) :
    Except PyError (List UsageRow) :=
  match world.fault n (.queryAggregates (partitionKey tenant)) with
  | none => .ok (sortedRows items tenant)
  | some e => if e.isQueryFailure then .ok [] else .error e

section Rows

variable {items : List AggregateItem} {tenant : String} {row : UsageRow}

theorem sortedRows_perm (items : List AggregateItem) (tenant : String) :
    (sortedRows items tenant).Perm ((tenantItems items tenant).map UsageRow.ofItem) :=
  List.mergeSort_perm _ _

theorem mem_sortedRows :
    row ∈ sortedRows items tenant ↔ ∃ item ∈ tenantItems items tenant, UsageRow.ofItem item = row := by
  rw [(sortedRows_perm items tenant).mem_iff, List.mem_map]

theorem MonthlyRows.sorted_distinct (h : MonthlyRows items tenant) :
    ((sortedRows items tenant).map UsageRow.billingMonth).Nodup := by
  have hmonths := (sortedRows_perm items tenant).map UsageRow.billingMonth
  rw [List.map_map] at hmonths
  exact hmonths.nodup_iff.mpr h.distinct

theorem MonthlyRows.row_named (h : MonthlyRows items tenant)
    (hrow : row ∈ sortedRows items tenant) : row.billingMonth ≠ "" := by
  obtain ⟨item, hitem, rfl⟩ := mem_sortedRows.mp hrow
  exact h.named item hitem

/-- Where no two entries share a key, an entry is found by its own. -/
theorem find?_of_nodup {α : Type} {key : α → String} {entries : List α}
    (distinct : (entries.map key).Nodup) {a : α} (h : a ∈ entries) :
    (entries.find? fun b => key b == key a) = some a := by
  induction entries with
  | nil => cases h
  | cons first entries ih =>
    obtain ⟨hfirst, hrest⟩ := List.nodup_cons.mp distinct
    rcases List.mem_cons.mp h with rfl | h
    · rw [List.find?_cons_of_pos (by simp)]
    · have hne : key first ≠ key a := fun heq => hfirst (heq ▸ List.mem_map_of_mem h)
      rw [List.find?_cons_of_neg (by simpa using hne)]
      exact ih hrest h

/-- A row is found again by its month. -/
theorem MonthlyRows.usageFor_row (h : MonthlyRows items tenant)
    (hrow : row ∈ sortedRows items tenant) :
    usageFor (sortedRows items tenant) row.billingMonth = row := by
  unfold usageFor
  rw [find?_of_nodup h.sorted_distinct hrow]
  rfl

end Rows

section Run

variable {config : Config} {world : World} {items : List AggregateItem} {tenant : String} {n : Nat}

theorem not_raises_of_loses (h : world.LosesQuery tenant n) : ¬ world.RaisesQuery tenant n := by
  intro hraises
  obtain ⟨e, hfault, hfailure⟩ := h
  obtain ⟨e', hfault', hfailure'⟩ := hraises
  rw [hfault] at hfault'
  cases hfault'
  rw [hfailure] at hfailure'
  cases hfailure'

theorem queryRows_of_loses (h : world.LosesQuery tenant n) :
    world.queryRows items tenant n = .ok [] := by
  obtain ⟨e, hfault, hfailure⟩ := h
  rw [World.queryRows, hfault]
  simp only [hfailure, if_true]

theorem queryRows_of_raises (items : List AggregateItem) (h : world.RaisesQuery tenant n) :
    ∃ e, world.queryRows items tenant n = .error e := by
  obtain ⟨e, hfault, hfailure⟩ := h
  refine ⟨e, ?_⟩
  rw [World.queryRows, hfault]
  simp only [hfailure, Bool.false_eq_true, if_false]

/-- A query that does neither answers. -/
theorem queryRows_of_answers (hloses : ¬ world.LosesQuery tenant n)
    (hraises : ¬ world.RaisesQuery tenant n) :
    world.queryRows items tenant n = .ok (sortedRows items tenant) := by
  unfold World.queryRows
  cases hfault : world.fault n (.queryAggregates (partitionKey tenant)) with
  | none => rfl
  | some e =>
    cases hfailure : e.isQueryFailure with
    | true => exact absurd ⟨e, hfault, hfailure⟩ hloses
    | false => exact absurd ⟨e, hfault, hfailure⟩ hraises

theorem queryRows_of_reads (hreads : world.Reads) :
    world.queryRows items tenant n = .ok (sortedRows items tenant) := by
  rw [World.queryRows, hreads]

theorem run_query (billed : config.Billed) (world : World) (tenant : String) (s : AppState) :
    world.run (queryTenantAggregates config tenant) s =
      (world.queryRows s.aggregate tenant s.tick, { s with tick := s.tick + 1 }) := by
  unfold World.queryRows
  cases hfault : world.fault s.tick (.queryAggregates (partitionKey tenant)) with
  | none => exact run_query_answered billed.demoMode billed.table hfault
  | some e =>
    have hfailure : world.failure s (.queryAggregates (partitionKey tenant)) = some e :=
      (if_pos rfl).trans hfault
    have hquery : world.run (perform (.queryAggregates (partitionKey tenant))) s =
        (.error e, { s with tick := s.tick + 1 }) := by
      rw [World.run_perform, World.exec_of_failure hfailure]
    unfold queryTenantAggregates
    simp only [billed.demoMode, billed.table, Bool.false_eq_true, if_false]
    rw [World.run_tryCatch_error (World.run_bind_error hquery)]
    cases e <;> rfl

/-- An invoice of a named month makes one query. -/
theorem run_calculateInvoice_some (billed : config.Billed) (world : World) (tenant : String)
    {period : String} (named : period ≠ "") (s : AppState) :
    world.run (calculateInvoice config tenant (some period)) s =
      ((world.queryRows s.aggregate tenant s.tick).map fun rows =>
        priceInvoice tenant period (planForTenant config tenant) (usageFor rows period),
        { s with tick := s.tick + 1 }) := by
  have hperiod : periodOrCurrent (some period) = pure period := by
    rw [periodOrCurrent, if_neg named]
  unfold calculateInvoice getTenantUsage
  rw [hperiod, pure_bind, hperiod, pure_bind]
  cases hrows : world.queryRows s.aggregate tenant s.tick with
  | ok rows =>
    rw [World.run_bind_ok (World.run_bind_ok (by rw [run_query billed world, hrows]))]
    rfl
  | error e =>
    rw [World.run_bind_error (World.run_bind_error (by rw [run_query billed world, hrows]))]
    rfl

/-- The invoices of some months, the query of the first one made at a tick. -/
def World.pricedRows (world : World) (config : Config) (items : List AggregateItem)
    (tenant : String) (n : Nat) : List String → Except PyError (List Invoice)
  | [] => .ok []
  | period :: periods => do
    let rows ← world.queryRows items tenant n
    let invoices ← world.pricedRows config items tenant (n + 1) periods
    .ok (priceInvoice tenant period (planForTenant config tenant) (usageFor rows period) ::
      invoices)

theorem run_calculateInvoices (billed : config.Billed) (tenant : String) {periods : List String}
    (named : ∀ period ∈ periods, period ≠ "") (s : AppState) :
    (world.run (calculateInvoices config tenant periods) s).1 =
      world.pricedRows config s.aggregate tenant s.tick periods := by
  induction periods generalizing s with
  | nil => rfl
  | cons period periods ih =>
    obtain ⟨hperiod, hperiods⟩ := List.forall_mem_cons.mp named
    have hfirst := run_calculateInvoice_some billed world tenant hperiod s
    have hrest := ih hperiods { s with tick := s.tick + 1 }
    unfold calculateInvoices World.pricedRows
    cases hrows : world.queryRows s.aggregate tenant s.tick with
    | error e =>
      rw [hrows] at hfirst
      rw [World.run_bind_error hfirst]
      rfl
    | ok rows =>
      rw [hrows] at hfirst
      rw [World.run_bind_ok hfirst]
      cases hinvoices : world.pricedRows config s.aggregate tenant (s.tick + 1) periods with
      | error e =>
        rw [hinvoices] at hrest
        rw [World.run_bind_error (Prod.ext hrest rfl)]
        rfl
      | ok invoices =>
        rw [hinvoices] at hrest
        rw [World.run_bind_ok (Prod.ext hrest rfl)]
        rfl

/-- The invoice of one month, its query made at a tick. -/
def World.pricedRow (world : World) (config : Config) (items : List AggregateItem)
    (tenant : String) (n : Nat) (period : String) : Except PyError (List Invoice) :=
  (world.queryRows items tenant n).map fun rows =>
    [priceInvoice tenant period (planForTenant config tenant) (usageFor rows period)]

/-- `get_invoices`, the first query made at a tick. -/
def World.historyRows (world : World) (config : Config) (items : List AggregateItem)
    (tenant : String) (n limit : Nat) : Except PyError (List Invoice) := do
  let rows ← world.queryRows items tenant n
  if rows.isEmpty then
    world.pricedRow config items tenant (n + 2) (strftimeMonth (world.now (n + 1)))
  else world.pricedRows config items tenant (n + 1) ((rows.take limit).map UsageRow.billingMonth)

theorem mem_queryRows {rows : List UsageRow} (h : world.queryRows items tenant n = .ok rows)
    {row : UsageRow} (hrow : row ∈ rows) : row ∈ sortedRows items tenant := by
  by_cases hloses : world.LosesQuery tenant n
  · rw [queryRows_of_loses hloses] at h
    cases h
    cases hrow
  · by_cases hraises : world.RaisesQuery tenant n
    · obtain ⟨e, he⟩ := queryRows_of_raises items hraises
      rw [he] at h
      cases h
    · rw [queryRows_of_answers hloses hraises] at h
      cases h
      exact hrow

theorem run_getInvoices (billed : config.Billed) {s : AppState}
    (monthly : MonthlyRows s.aggregate tenant) (limit : Nat) :
    (world.run (getInvoices config tenant limit) s).1 =
      world.historyRows config s.aggregate tenant s.tick limit := by
  have hquery := run_query billed world tenant s
  unfold getInvoices World.historyRows
  cases hrows : world.queryRows s.aggregate tenant s.tick with
  | error e =>
    rw [hrows] at hquery
    rw [World.run_bind_error hquery]
    rfl
  | ok rows =>
    rw [hrows] at hquery
    rw [World.run_bind_ok hquery]
    by_cases hempty : rows.isEmpty = true
    · have hcurrent : world.run currentBillingPeriod { s with tick := s.tick + 1 } =
          (.ok (strftimeMonth (world.now (s.tick + 1))), { s with tick := s.tick + 2 }) := rfl
      have hinvoice := run_calculateInvoice_some billed world tenant
        (strftimeMonth_ne (world.now (s.tick + 1))) { s with tick := s.tick + 2 }
      change _ = ite (rows.isEmpty = true) _ _
      rw [if_pos hempty, if_pos hempty, World.run_bind_ok hcurrent]
      unfold World.pricedRow
      cases hsecond : world.queryRows s.aggregate tenant (s.tick + 2) with
      | error e =>
        rw [hsecond] at hinvoice
        rw [World.run_bind_error hinvoice]
        rfl
      | ok rows' =>
        rw [hsecond] at hinvoice
        rw [World.run_bind_ok hinvoice]
        rfl
    · change _ = ite (rows.isEmpty = true) _ _
      rw [if_neg hempty, if_neg hempty]
      refine run_calculateInvoices billed tenant ?_ { s with tick := s.tick + 1 }
      intro period hperiod
      obtain ⟨row, hrow, rfl⟩ := List.mem_map.mp hperiod
      exact monthly.row_named (mem_queryRows hrows (List.mem_of_mem_take hrow))

/-- Where queries are answered, each row prices its own invoice. -/
theorem pricedRows_reads (monthly : MonthlyRows items tenant) (hreads : world.Reads)
    {listed : List UsageRow} (hlisted : ∀ row ∈ listed, row ∈ sortedRows items tenant) :
    world.pricedRows config items tenant n (listed.map UsageRow.billingMonth) =
      .ok (listed.map fun row =>
        priceInvoice tenant row.billingMonth (planForTenant config tenant) row) := by
  induction listed generalizing n with
  | nil => rfl
  | cons row listed ih =>
    obtain ⟨hrow, hrest⟩ := List.forall_mem_cons.mp hlisted
    rw [List.map_cons, World.pricedRows, queryRows_of_reads hreads, ih hrest]
    show Except.ok (priceInvoice tenant row.billingMonth _
      (usageFor (sortedRows items tenant) row.billingMonth) :: _) = _
    rw [monthly.usageFor_row hrow]
    rfl

theorem run_getInvoices_reads (billed : config.Billed) (hreads : world.Reads) {s : AppState}
    (monthly : MonthlyRows s.aggregate tenant) (hrows : sortedRows s.aggregate tenant ≠ [])
    (limit : Nat) :
    (world.run (getInvoices config tenant limit) s).1 =
      .ok (((sortedRows s.aggregate tenant).take limit).map fun row =>
        priceInvoice tenant row.billingMonth (planForTenant config tenant) row) := by
  have hempty : ¬ (sortedRows s.aggregate tenant).isEmpty = true := by simpa using hrows
  rw [run_getInvoices billed monthly, World.historyRows, queryRows_of_reads hreads]
  change ite ((sortedRows s.aggregate tenant).isEmpty = true) _ _ = _
  rw [if_neg hempty]
  exact pricedRows_reads monthly hreads fun row hrow => List.mem_of_mem_take hrow

end Run

end TenantSaas
