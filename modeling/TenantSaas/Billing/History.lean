import Mathlib.Data.Set.List
import TenantSaas.Billing.Queries

/-!
# The invoice history

`get_invoices` sorts the months of a partition as texts, keeps the first ones and looks each of
them up again.  The handler writes every month with four and two digits, so the texts are
ordered like the months.
-/

namespace TenantSaas

/-! ## Months as texts -/

namespace BillingMonth

/-- The order of the calendar. -/
instance : LT BillingMonth :=
  ⟨fun m m' => m.year < m'.year ∨ m.year = m'.year ∧ m.month < m'.month⟩

theorem key_lt_iff (m m' : BillingMonth) : m.key < m'.key ↔ m < m' := by
  have hyear : PyStr.pad 4 m.year < PyStr.pad 4 m'.year ↔ m.year < m'.year := by
    have hm := m.year_range
    have hm' := m'.year_range
    rw [PyStr.pad_lt_pad_iff, Nat.mod_eq_of_lt (by omega), Nat.mod_eq_of_lt (by omega)]
  have hmonth : PyStr.pad 2 m.month < PyStr.pad 2 m'.month ↔ m.month < m'.month := by
    have hm := m.month_range
    have hm' := m'.month_range
    rw [PyStr.pad_lt_pad_iff, Nat.mod_eq_of_lt (by omega), Nat.mod_eq_of_lt (by omega)]
  have hsame : PyStr.pad 4 m.year = PyStr.pad 4 m'.year ↔ m.year = m'.year := by
    have hm := m.year_range
    have hm' := m'.year_range
    exact ⟨fun h => PyStr.pad_inj (by omega) (by omega) h, congrArg _⟩
  have htexts : m.key < m'.key ↔ m.chars < m'.chars := by
    rw [String.lt_iff, key_toList, key_toList]
  rw [htexts, chars, chars, PyDateTime.monthChars, PyDateTime.monthChars,
    PyStr.append_lt_append_iff (by simp), List.cons_lt_cons_iff, hyear, hsame, hmonth]
  simp only [Char.lt_irrefl, true_and, false_or]
  rfl

/-- Of two months one comes first. -/
theorem lt_of_not_lt {m m' : BillingMonth} (hne : m ≠ m') (h : ¬ m < m') : m' < m := by
  have hfields : ¬ (m.year = m'.year ∧ m.month = m'.month) := by
    intro hsame
    cases m
    cases m'
    simp only at hsame
    simp [hsame] at hne
  change ¬ (m.year < m'.year ∨ m.year = m'.year ∧ m.month < m'.month) at h
  change m'.year < m.year ∨ m'.year = m.year ∧ m'.month < m.month
  omega

end BillingMonth

/-! ## The latest months -/

/-- Months of a partition, one for each row, in the order of the table. -/
structure RowMonths (items : List AggregateItem) (tenant : String) (months : List BillingMonth) :
    Prop where
  named : (tenantItems items tenant).map AggregateItem.billingMonth = months.map BillingMonth.key
  distinct : months.Nodup

/-- The latest `limit` of some months, latest first. -/
structure LatestMonths (months : List BillingMonth) (limit : Nat) (kept : List BillingMonth) :
    Prop where
  length : kept.length = min limit months.length
  decreasing : kept.Pairwise fun m m' => m' < m
  held : ∀ m ∈ kept, m ∈ months
  latest : ∀ m ∈ months, m ∉ kept → ∀ m' ∈ kept, m < m'

/-- The months, latest first. -/
def sortedMonths (months : List BillingMonth) : List BillingMonth :=
  months.mergeSort fun m m' => decide (m'.key ≤ m.key)

section Months

variable {items : List AggregateItem} {tenant : String} {months : List BillingMonth}

theorem sortedMonths_perm (months : List BillingMonth) : (sortedMonths months).Perm months :=
  List.mergeSort_perm _ _

theorem sortedMonths_decreasing (distinct : months.Nodup) :
    (sortedMonths months).Pairwise fun m m' => m' < m := by
  have hsorted : (sortedMonths months).Pairwise fun m m' => decide (m'.key ≤ m.key) = true := by
    apply List.pairwise_mergeSort
    · intro a b c hab hbc
      rw [decide_eq_true_eq] at hab hbc ⊢
      exact String.le_trans hbc hab
    · intro a b
      simpa using String.le_total b.key a.key
  have hne : (sortedMonths months).Pairwise (· ≠ ·) :=
    (sortedMonths_perm months).nodup_iff.mpr distinct
  refine hsorted.imp₂ (fun m m' hle hne' => ?_) hne
  rw [decide_eq_true_eq, ← String.not_lt, BillingMonth.key_lt_iff] at hle
  exact BillingMonth.lt_of_not_lt hne' hle

theorem latestMonths_take (distinct : months.Nodup) (limit : Nat) :
    LatestMonths months limit ((sortedMonths months).take limit) where
  length := by
    rw [List.length_take, (sortedMonths_perm months).length_eq]
  decreasing := (sortedMonths_decreasing distinct).sublist (List.take_sublist _ _)
  held m hm := (sortedMonths_perm months).mem_iff.mp (List.mem_of_mem_take hm)
  latest := by
    intro m hm hnot m' hm'
    have hsplit := sortedMonths_decreasing distinct
    rw [← List.take_append_drop limit (sortedMonths months), List.pairwise_append] at hsplit
    have hmem := (sortedMonths_perm months).mem_iff.mpr hm
    rw [← List.take_append_drop limit (sortedMonths months), List.mem_append] at hmem
    exact hsplit.2.2 m' hm' m (hmem.resolve_left hnot)

theorem RowMonths.monthly (h : RowMonths items tenant months) : MonthlyRows items tenant where
  distinct := by
    rw [h.named]
    exact h.distinct.map fun _ _ hkeys => BillingMonth.key_inj hkeys
  named := by
    intro item hitem
    have hmem : item.billingMonth ∈ months.map BillingMonth.key :=
      h.named ▸ List.mem_map_of_mem hitem
    obtain ⟨m, -, hm⟩ := List.mem_map.mp hmem
    rw [← hm]
    exact m.key_ne

/-- Sorting the rows sorts the months. -/
theorem RowMonths.sorted (h : RowMonths items tenant months) :
    (sortedRows items tenant).map UsageRow.billingMonth =
      (sortedMonths months).map BillingMonth.key := by
  have hrows : (sortedRows items tenant).map UsageRow.billingMonth =
      (((tenantItems items tenant).map UsageRow.ofItem).map UsageRow.billingMonth).mergeSort
        fun key key' => decide (key' ≤ key) := List.map_mergeSort fun _ _ _ _ => rfl
  have hmonths : (sortedMonths months).map BillingMonth.key =
      (months.map BillingMonth.key).mergeSort fun key key' => decide (key' ≤ key) :=
    List.map_mergeSort fun _ _ _ _ => rfl
  rw [hrows, hmonths, List.map_map, ← h.named]
  rfl

end Months

/-- The handler leaves partitions of this form. -/
theorem rowMonths_run {repr : Json → String} {trace : LambdaTrace} {pool : Lambda}
    (run : Lambda.Run repr trace pool) (tenant : String) :
    ∃ months, RowMonths pool.store.aggregate tenant months := by
  have hfiled := filedByMonth_run run
  have hnamed : (tenantItems pool.store.aggregate tenant).map AggregateItem.billingMonth ∈
      Set.range (List.map BillingMonth.key) := by
    rw [Set.range_list_map]
    intro key hkey
    obtain ⟨item, hitem, rfl⟩ := List.mem_map.mp hkey
    obtain ⟨m, hm⟩ := monthsNamed_run run item (List.mem_of_mem_filter hitem)
    exact ⟨m, hm.symm⟩
  obtain ⟨months, hmonths⟩ := hnamed
  refine ⟨months, hmonths.symm, ?_⟩
  have hdistinct : ((tenantItems pool.store.aggregate tenant).map
      AggregateItem.billingMonth).Nodup := by
    rw [List.Nodup, List.pairwise_map]
    have hpairs := hfiled.distinct.sublist
      (List.filter_sublist (p := fun item => item.pk == partitionKey tenant))
    refine hpairs.imp_of_mem fun {item item'} hitem hitem' hkeys hmonth => ?_
    obtain ⟨hmem, hpk⟩ := List.mem_filter.mp hitem
    obtain ⟨hmem', hpk'⟩ := List.mem_filter.mp hitem'
    rw [beq_iff_eq] at hpk hpk'
    refine hkeys ⟨hpk.trans hpk'.symm, ?_⟩
    rw [hfiled.named item hmem, hfiled.named item' hmem', hmonth]
  rw [← hmonths] at hdistinct
  exact hdistinct.of_map

/-- An invoice is priced from the row its month has in the partition. -/
def PricedFromRow (config : Config) (items : List AggregateItem) (tenant : String)
    (m : BillingMonth) (invoice : Invoice) : Prop :=
  ∃ item ∈ tenantItems items tenant, item.billingMonth = m.key ∧
    invoice.billingPeriod = m.key ∧ invoice.usageUnits = item.usageUnits ∧
    invoice = priceInvoice tenant m.key (planForTenant config tenant) (UsageRow.ofItem item)

/-- The history is the latest months, latest first, each priced from its own row. -/
theorem getInvoices_latest (config : Config) (world : World) (tenant : String) (s : AppState)
    (months : List BillingMonth) (limit : Nat) (billed : config.Billed) (reads : world.Reads)
    (rows : RowMonths s.aggregate tenant months) (nonempty : months ≠ []) :
    ∃ kept invoices, LatestMonths months limit kept ∧
      (world.run (getInvoices config tenant limit) s).1 = .ok invoices ∧
      List.Forall₂ (PricedFromRow config s.aggregate tenant) kept invoices := by
  have hsorted : sortedRows s.aggregate tenant ≠ [] := by
    intro hnil
    have hlength := congrArg List.length rows.sorted
    rw [hnil, List.length_map, List.length_map, (sortedMonths_perm months).length_eq] at hlength
    exact nonempty (List.length_eq_zero_iff.mp hlength.symm)
  have hsame : List.Forall₂ Eq
      (((sortedRows s.aggregate tenant).take limit).map UsageRow.billingMonth)
      (((sortedMonths months).take limit).map BillingMonth.key) := by
    rw [List.forall₂_eq_eq_eq, List.map_take, List.map_take, rows.sorted]
  rw [List.forall₂_map_left_iff, List.forall₂_map_right_iff] at hsame
  have hheld := (List.forall₂_and_left _ _).mpr
    ⟨fun row hrow => List.mem_of_mem_take hrow, hsame⟩
  refine ⟨_, _, latestMonths_take rows.distinct limit,
    run_getInvoices_reads billed reads rows.monthly hsorted limit, ?_⟩
  rw [List.forall₂_map_right_iff]
  apply List.Forall₂.flip
  refine hheld.imp fun row m h => ?_
  obtain ⟨hrow, hmonth⟩ := h
  obtain ⟨item, hitem, rfl⟩ := mem_sortedRows.mp hrow
  exact ⟨item, hitem, hmonth, hmonth, rfl, by rw [hmonth]⟩

def june : BillingMonth := { august with month := 6, month_range := by decide }

/-- June and August, as the table returns them, and a row of another tenant. -/
def summerState : AppState :=
  { emptyState with
    aggregate :=
      [⟨"TENANT#TenantA", "MONTH#2026-06", 8, 8, .str "TenantA", "2026-06"⟩,
        ⟨"TENANT#TenantB", "MONTH#2026-08", 1, 1, .str "TenantB", "2026-08"⟩,
        ⟨"TENANT#TenantA", "MONTH#2026-08", 7, 7, .str "TenantA", "2026-08"⟩] }

theorem summer_history : ∃ kept invoices, LatestMonths [june, august] 1 kept ∧
    (quietWorld.run (getInvoices sampleConfig "TenantA" 1) summerState).1 = .ok invoices ∧
    List.Forall₂ (PricedFromRow sampleConfig summerState.aggregate "TenantA") kept invoices :=
  getInvoices_latest sampleConfig quietWorld "TenantA" summerState [june, august] 1
    ⟨rfl, by decide⟩ (fun _ _ => rfl) ⟨by decide, by decide⟩ (List.cons_ne_nil _ _)

end TenantSaas
