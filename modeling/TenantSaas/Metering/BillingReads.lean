import Mathlib.Data.List.Find
import TenantSaas.Metering.Conservation
import TenantSaas.Metering.Published
import TenantSaas.Services.BillingService

/-!
# What billing reads from the aggregate

The handler keys an item by `MONTH#<month>` and stores the month once more in it; billing
queries the tenant's partition and looks for the month.  Both name the same item, because the
two copies of the month agree and no key occurs twice.
-/

namespace TenantSaas

/-- The state of the aggregate table that the reader relies on. -/
structure FiledByMonth (items : List AggregateItem) : Prop where
  named : ∀ item ∈ items, item.sk = "MONTH#" ++ item.billingMonth
  distinct : items.Pairwise fun item item' => ¬ (item.pk = item'.pk ∧ item.sk = item'.sk)

/-- An item of the table after an update stands for one before it, or for the update. -/
theorem mem_applyUpdate {update : AggregateUpdate} {items : List AggregateItem}
    {item : AggregateItem} (h : item ∈ applyUpdate update items) :
    (∃ old ∈ items, item.pk = old.pk ∧ item.sk = old.sk ∧
      (item.billingMonth = old.billingMonth ∨
        item.sk = update.sk ∧ item.billingMonth = update.billingMonth)) ∨
    (item = .create update ∧ ∀ old ∈ items, ¬ (old.pk = update.pk ∧ old.sk = update.sk)) := by
  induction items with
  | nil =>
    right
    exact ⟨List.mem_singleton.mp h, by simp⟩
  | cons first items ih =>
    by_cases hkey : first.hasKey update.pk update.sk = true
    · rw [applyUpdate, if_pos hkey] at h
      rcases List.mem_cons.mp h with rfl | h
      · left
        simp only [AggregateItem.hasKey, Bool.and_eq_true, beq_iff_eq] at hkey
        exact ⟨first, List.mem_cons_self, rfl, rfl, .inr ⟨hkey.2, rfl⟩⟩
      · left
        exact ⟨item, List.mem_cons_of_mem _ h, rfl, rfl, .inl rfl⟩
    · rw [applyUpdate, if_neg hkey] at h
      rcases List.mem_cons.mp h with rfl | h
      · left
        exact ⟨item, List.mem_cons_self, rfl, rfl, .inl rfl⟩
      · rcases ih h with ⟨old, hold, hrest⟩ | ⟨hnew, hnone⟩
        · left
          exact ⟨old, List.mem_cons_of_mem _ hold, hrest⟩
        · right
          refine ⟨hnew, fun old hold hsame => ?_⟩
          rcases List.mem_cons.mp hold with rfl | hold
          · simp [AggregateItem.hasKey, hsame] at hkey
          · exact hnone old hold hsame

theorem filedByMonth_applyUpdate {update : AggregateUpdate} {items : List AggregateItem}
    (hupdate : update.sk = "MONTH#" ++ update.billingMonth) (h : FiledByMonth items) :
    FiledByMonth (applyUpdate update items) := by
  constructor
  · intro item hitem
    rcases mem_applyUpdate hitem with ⟨old, hold, -, hsk, hmonth | ⟨hsk', hmonth⟩⟩ | ⟨rfl, -⟩
    · rw [hsk, hmonth]
      exact h.named old hold
    · rw [hsk', hmonth]
      exact hupdate
    · exact hupdate
  · have hdistinct := h.distinct
    clear h
    induction items with
    | nil => exact List.pairwise_singleton _ _
    | cons first items ih =>
      obtain ⟨hfirst, hitems⟩ := List.pairwise_cons.mp hdistinct
      by_cases hkey : first.hasKey update.pk update.sk = true
      · rw [applyUpdate, if_pos hkey]
        exact List.pairwise_cons.mpr ⟨hfirst, hitems⟩
      · rw [applyUpdate, if_neg hkey]
        refine List.pairwise_cons.mpr ⟨fun item hitem hsame => ?_, ih hitems⟩
        rcases mem_applyUpdate hitem with ⟨old, hold, hpk, hsk, -⟩ | ⟨rfl, -⟩
        · exact hfirst old hold ⟨hsame.1.trans hpk, hsame.2.trans hsk⟩
        · simp only [AggregateItem.hasKey, Bool.and_eq_true, beq_iff_eq] at hkey
          exact hkey hsame

/-- What the updates of the handler keep holds of the aggregate in every run. -/
theorem aggregate_run {repr : Json → String} {P : List AggregateItem → Prop} (hnil : P [])
    (hupdate : ∀ (w : UsageWrite repr) items, P items → P (applyUpdate w.update items))
    {trace : LambdaTrace} {pool : Lambda} (run : Lambda.Run repr trace pool) :
    P pool.store.aggregate := by
  have rule : Pool.ThreadRule execOp (handler repr) (fun _ => True)
      (fun tables => P tables.aggregate)
      (fun _ p _ => p.Calls fun op => ∀ update, op = .updateItem update →
        ∃ w : UsageWrite repr, update = w.update) := by
    refine ⟨?_, ?_, ?_⟩
    · intro s batch _ _
      apply handler_calls
      intro record _ event _ hvalid item update hwrites
      obtain ⟨w, rfl, rfl⟩ := usageWrites_usageWrite hvalid hwrites
      refine ⟨by simp, ?_⟩
      intro update h
      cases h
      exact ⟨w, rfl⟩
    · intro s batch op next outcome _ hkept hcalls
      refine ⟨?_, hcalls.2 _⟩
      cases op with
      | putItem item =>
        have hsame : (applyOp s (.putItem item)).2.aggregate = s.aggregate := by
          rw [applyOp]
          by_cases hheld : s.holds item = true
          · rw [if_pos hheld]
          · rw [if_neg hheld]
        cases outcome with
        | success => rw [execOp, hsame]; exact hkept
        | before e => exact hkept
        | after e => rw [execOp, hsame]; exact hkept
      | updateItem update =>
        obtain ⟨w, rfl⟩ := hcalls.1 update rfl
        have hnew := hupdate w s.aggregate hkept
        cases outcome with
        | success => exact hnew
        | before e => exact hkept
        | after e => exact hnew
    · intro s batch op next outcome _ _ _ batch' p hcalls
      exact hcalls
  exact (rule.run run (fun _ _ => trivial) hnil (by simp [Lambda.init])).1.1

/-- The updates the handler makes name their month in the key. -/
theorem filedByMonth_run {repr : Json → String} {trace : LambdaTrace} {pool : Lambda}
    (run : Lambda.Run repr trace pool) : FiledByMonth pool.store.aggregate :=
  aggregate_run ⟨by simp, .nil⟩ (fun w _ h => filedByMonth_applyUpdate
    (by rw [w.update_sk, w.update_month, monthKey]) h) run

/-- Every item names a month of the calendar. -/
def MonthsNamed (items : List AggregateItem) : Prop :=
  ∀ item ∈ items, ∃ m : BillingMonth, item.billingMonth = m.key

theorem monthsNamed_run {repr : Json → String} {trace : LambdaTrace} {pool : Lambda}
    (run : Lambda.Run repr trace pool) : MonthsNamed pool.store.aggregate := by
  apply aggregate_run ?_ ?_ run
  · intro item hitem
    cases hitem
  · intro w items h item hitem
    rcases mem_applyUpdate hitem with ⟨old, hold, -, -, hmonth | ⟨-, hmonth⟩⟩ | ⟨rfl, -⟩
    · obtain ⟨m, hm⟩ := h old hold
      exact ⟨m, hmonth.trans hm⟩
    · exact ⟨w.month, hmonth.trans w.update_month⟩
    · exact ⟨w.month, w.update_month⟩

/-! ## Reading -/

/-- The table query of billing does not fail. -/
def World.Reads (world : World) : Prop := ∀ n pk, world.fault n (.queryAggregates pk) = none

section Reading

variable {config : Config} {world : World} {s : AppState}

/-- The rows of a tenant's partition, latest month first. -/
def sortedRows (items : List AggregateItem) (tenant : String) : List UsageRow :=
  ((items.filter fun item => item.pk == partitionKey tenant).map UsageRow.ofItem).mergeSort
    fun r r' => decide (r'.billingMonth ≤ r.billingMonth)

/-- A query that is answered. -/
theorem run_query_answered (demo : config.demoMode = false)
    (table : config.usageAggregateTable ≠ "") {tenant : String}
    (answered : world.fault s.tick (.queryAggregates (partitionKey tenant)) = none) :
    world.run (queryTenantAggregates config tenant) s =
      (.ok (sortedRows s.aggregate tenant), { s with tick := s.tick + 1 }) := by
  have hfail : world.failure s (.queryAggregates (partitionKey tenant)) = none := answered
  have hquery : world.run (perform (.queryAggregates (partitionKey tenant))) s =
      (.ok (s.aggregate.filter fun item => item.pk == partitionKey tenant),
        { s with tick := s.tick + 1 }) := by
    rw [World.run_perform, World.exec_of_answer hfail]
    rfl
  unfold queryTenantAggregates
  simp only [demo, table, Bool.false_eq_true, if_false]
  exact World.run_tryCatch_ok (World.run_bind_ok hquery)

theorem run_queryTenantAggregates (hconfig : config.Metering) (hreads : world.Reads)
    (tenant : String) :
    world.run (queryTenantAggregates config tenant) s =
      (.ok (sortedRows s.aggregate tenant), { s with tick := s.tick + 1 }) :=
  run_query_answered hconfig.demoMode hconfig.table (hreads _ _)

section Filed

variable {items : List AggregateItem}

/-- The month of a filed item is the one in its sort key. -/
theorem FiledByMonth.hasKey_iff (h : FiledByMonth items) {item : AggregateItem}
    (hitem : item ∈ items) (pk : String) (m : BillingMonth) :
    (item.pk == pk && item.billingMonth == m.key) = item.hasKey pk (monthKey m) := by
  have hsk : item.sk = monthKey m ↔ item.billingMonth = m.key := by
    rw [h.named item hitem, monthKey]
    exact String.append_right_inj _
  rw [AggregateItem.hasKey, Bool.eq_iff_iff]
  simp only [Bool.and_eq_true, beq_iff_eq, hsk]

theorem FiledByMonth.eq_of_hasKey (h : FiledByMonth items) {item item' : AggregateItem}
    (hitem : item ∈ items) (hitem' : item' ∈ items) {pk sk : String}
    (hkey : item.hasKey pk sk = true) (hkey' : item'.hasKey pk sk = true) : item = item' := by
  simp only [AggregateItem.hasKey, Bool.and_eq_true, beq_iff_eq] at hkey hkey'
  by_contra hne
  have hsymm : Std.Symm fun item item' : AggregateItem =>
      ¬ (item.pk = item'.pk ∧ item.sk = item'.sk) :=
    ⟨fun _ _ h hsame => h ⟨hsame.1.symm, hsame.2.symm⟩⟩
  exact h.distinct.forall hitem hitem' hne
    ⟨hkey.1.trans hkey'.1.symm, hkey.2.trans hkey'.2.symm⟩

/-- The rows of a tenant are searched by month as the items by their key. -/
theorem FiledByMonth.find_sortedRows (h : FiledByMonth items) (tenant : String)
    (m : BillingMonth) :
    (sortedRows items tenant).find? (fun row => row.billingMonth == m.key) =
      (items.find? (AggregateItem.hasKey (partitionKey tenant) (monthKey m))).map
        UsageRow.ofItem := by
  let rows := (items.filter fun item => item.pk == partitionKey tenant).map UsageRow.ofItem
  have hrow : ∀ row ∈ rows, (row.billingMonth == m.key) = true → ∃ item ∈ items,
      item.hasKey (partitionKey tenant) (monthKey m) = true ∧ UsageRow.ofItem item = row := by
    intro row hrow hmonth
    obtain ⟨item, hitem, rfl⟩ := List.mem_map.mp hrow
    obtain ⟨hmem, hpk⟩ := List.mem_filter.mp hitem
    refine ⟨item, hmem, ?_, rfl⟩
    rw [← h.hasKey_iff hmem, hpk]
    exact hmonth
  have hsub : {row | row ∈ rows ∧ (row.billingMonth == m.key) = true}.Subsingleton := by
    rintro row ⟨hmem, hmonth⟩ row' ⟨hmem', hmonth'⟩
    obtain ⟨item, hitem, hkey, rfl⟩ := hrow row hmem hmonth
    obtain ⟨item', hitem', hkey', rfl⟩ := hrow row' hmem' hmonth'
    rw [h.eq_of_hasKey hitem hitem' hkey hkey']
  have hperm : rows.Perm (sortedRows items tenant) := (List.mergeSort_perm _ _).symm
  rw [← List.find?_eq_find?_of_perm hperm hsub, List.find?_map, List.find?_filter]
  congr 1
  apply List.find?_congr
  intro item hitem
  rw [← h.hasKey_iff hitem, Bool.eq_iff_iff]
  simp [UsageRow.ofItem]

/-- Billing finds the item the handler keeps for the month, or reads zero. -/
theorem usageFor_sortedRows (h : FiledByMonth items) (tenant : String) (m : BillingMonth) :
    usageFor (sortedRows items tenant) m.key =
      ⟨m.key, attributeAt AggregateItem.requestCount (partitionKey tenant) (monthKey m) items,
        attributeAt AggregateItem.usageUnits (partitionKey tenant) (monthKey m) items⟩ := by
  unfold usageFor attributeAt
  rw [h.find_sortedRows]
  cases hitem : items.find? (AggregateItem.hasKey (partitionKey tenant) (monthKey m)) with
  | none => rfl
  | some item =>
    have hkey := List.find?_some hitem
    rw [← h.hasKey_iff (List.mem_of_find?_eq_some hitem), Bool.and_eq_true, beq_iff_eq,
      beq_iff_eq] at hkey
    simp [UsageRow.ofItem, hkey.2]

end Filed

theorem BillingMonth.key_ne (m : BillingMonth) : m.key ≠ "" := by
  intro h
  have hlength := congrArg (fun s => s.toList.length) h
  simp [BillingMonth.chars] at hlength

theorem periodOrCurrent_key (m : BillingMonth) : periodOrCurrent (some m.key) = pure m.key := by
  simp [periodOrCurrent, m.key_ne]

/-- `get_tenant_usage` outside demo mode, with a table that can be read. -/
theorem run_getTenantUsage (hconfig : config.Metering) (hreads : world.Reads)
    (h : FiledByMonth s.aggregate) (tenant : String) (m : BillingMonth) :
    world.run (getTenantUsage config tenant (some m.key)) s =
      (.ok ⟨m.key,
        attributeAt AggregateItem.requestCount (partitionKey tenant) (monthKey m) s.aggregate,
        attributeAt AggregateItem.usageUnits (partitionKey tenant) (monthKey m) s.aggregate⟩,
        { s with tick := s.tick + 1 }) := by
  unfold getTenantUsage
  rw [periodOrCurrent_key, pure_bind,
    World.run_bind_ok (run_queryTenantAggregates hconfig hreads _),
    usageFor_sortedRows h]
  rfl

/-- `calculate_invoice` prices what `get_tenant_usage` reads. -/
theorem run_calculateInvoice (hconfig : config.Metering) (hreads : world.Reads)
    (h : FiledByMonth s.aggregate) (tenant : String) (m : BillingMonth) :
    (world.run (calculateInvoice config tenant (some m.key)) s).1 =
      .ok (priceInvoice tenant m.key (planForTenant config tenant) ⟨m.key,
        attributeAt AggregateItem.requestCount (partitionKey tenant) (monthKey m) s.aggregate,
        attributeAt AggregateItem.usageUnits (partitionKey tenant) (monthKey m) s.aggregate⟩) := by
  unfold calculateInvoice
  rw [periodOrCurrent_key, pure_bind, World.run_bind_ok (run_getTenantUsage hconfig hreads h _ _)]
  rfl

end Reading

end TenantSaas
