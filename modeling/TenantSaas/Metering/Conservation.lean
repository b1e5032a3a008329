import Mathlib.Algebra.Order.BigOperators.Group.Multiset
import TenantSaas.Misc.Tally
import TenantSaas.Metering.Tables

/-!
# The aggregate never runs ahead of the ledger

Every row of the ledger owes the aggregate one increment, and only the invocation that won
the row's conditional put can make it.  The pool of invocations refines a `Tally` of such
writes: the rows are the recorded entries, the aggregate holds the counted ones, and an
entry is pending while its invocation stands before `update_item`.
-/

namespace TenantSaas

/-- One use of the service as the two tables see it: the row, and the increment it owes. -/
structure UsageWrite (repr : Json → String) where
  item : LedgerItem
  update : AggregateUpdate
  tenant : String
  month : BillingMonth
  tenant_eq : item.tenantId = .str tenant
  month_eq : billingMonth item.eventTimestamp = .ok month.key
  item_pk : item.pk = partitionKey tenant
  item_sk : item.sk = "USAGE#" ++ month.key ++ "#" ++ item.eventId.format repr
  update_pk : update.pk = partitionKey tenant
  update_sk : update.sk = monthKey month
  update_one : update.one = 1
  update_units : update.units = item.usageUnits
  update_month : update.billingMonth = month.key
  units_nonneg : 0 ≤ item.usageUnits

theorem partitionKey_inj {tenant tenant' : String}
    (h : partitionKey tenant = partitionKey tenant') :
    tenant = tenant' :=
  (String.append_right_inj _).mp h

theorem monthKey_inj {m m' : BillingMonth} (h : monthKey m = monthKey m') : m = m' :=
  BillingMonth.key_inj ((String.append_right_inj _).mp h)

/-- The month that `_billing_month` finds is a calendar month. -/
theorem billingMonth_eq_key {timestamp : Json} {s : String} (h : billingMonth timestamp = .ok s) :
    ∃ m : BillingMonth, s = m.key := by
  unfold billingMonth at h
  cases ht : parseTimestamp timestamp with
  | error e =>
    rw [ht] at h
    cases h
  | ok t =>
    rw [ht] at h
    exact ⟨.ofDateTime t, (Except.ok.inj h).symm⟩

/-- An accepted event owes the ledger a row and the aggregate the row's increment. -/
theorem usageWrites_usageWrite {repr : Json → String} {event : Json} {item : LedgerItem}
    {update : AggregateUpdate} (valid : validate event = .ok ())
    (h : usageWrites repr event = .ok (item, update)) :
    ∃ w : UsageWrite repr, w.item = item ∧ w.update = update := by
  obtain ⟨-, ⟨tenant, htenant, -⟩, ⟨units, hunits, hnum, hpos⟩, -, -⟩ := validate_eq_ok.mp valid
  unfold usageWrites at h
  simp only [exceptBind_eq_ok] at h
  obtain ⟨tenantId, htenant', eventId, -, timestamp, -, month, hmonth, units', hunits', n, hn,
    userId, -, apiPath, -, httpMethod, -, statusCode, -, hw⟩ := h
  obtain ⟨rfl, rfl⟩ := Prod.mk.inj (Except.ok.inj hw)
  obtain rfl := Except.ok.inj (htenant'.symm.trans htenant)
  obtain rfl := Except.ok.inj (hunits'.symm.trans hunits)
  obtain ⟨m, rfl⟩ := billingMonth_eq_key hmonth
  exact ⟨{
    item := _
    update := _
    tenant := tenant
    month := m
    tenant_eq := rfl
    month_eq := hmonth
    item_pk := rfl
    item_sk := rfl
    update_pk := rfl
    update_sk := rfl
    update_one := rfl
    update_units := rfl
    update_month := rfl
    units_nonneg := Json.toInt_nonneg hnum hpos hn }, rfl, rfl⟩

namespace UsageWrite

variable {repr : Json → String}

/-- The write falls to a tenant's month. -/
def chargedTo (tenant : String) (m : BillingMonth) (w : UsageWrite repr) : Prop :=
  w.tenant = tenant ∧ w.month = m

instance (tenant : String) (m : BillingMonth) : DecidablePred (@chargedTo repr tenant m) :=
  fun _ => inferInstanceAs (Decidable (_ ∧ _))

/-- The sort key names the month before its second `#`, so a month's prefix selects
exactly that month's rows. -/
theorem startswith_item_sk (w : UsageWrite repr) (m : BillingMonth) :
    PyStr.startswith w.item.sk ("USAGE#" ++ m.key ++ "#") = true ↔ w.month = m := by
  have hsep := @PyStr.prefix_sep_inj '#' _ _ (w.item.eventId.format repr).toList
    w.month.notMem_chars m.notMem_chars
  rw [PyStr.startswith, List.isPrefixOf_iff_prefix, w.item_sk]
  simp only [String.toList_append, BillingMonth.key_toList, List.append_assoc]
  rw [List.prefix_append_right_inj]
  refine Iff.trans ?_ (hsep.trans ⟨fun h => (BillingMonth.chars_inj h).symm, fun h => h ▸ rfl⟩)
  rfl

theorem filedUnder_item (w : UsageWrite repr) (tenant : String) (m : BillingMonth) :
    w.item.filedUnder tenant m = true ↔ w.chargedTo tenant m := by
  unfold LedgerItem.filedUnder chargedTo
  rw [Bool.and_eq_true, startswith_item_sk, beq_iff_eq, w.item_pk]
  exact and_congr_left' ⟨partitionKey_inj, congrArg partitionKey⟩

theorem update_key_iff (w : UsageWrite repr) (tenant : String) (m : BillingMonth) :
    (w.update.pk = partitionKey tenant ∧ w.update.sk = monthKey m) ↔ w.chargedTo tenant m := by
  unfold chargedTo
  rw [w.update_pk, w.update_sk]
  exact and_congr ⟨partitionKey_inj, congrArg partitionKey⟩ ⟨monthKey_inj, congrArg monthKey⟩

end UsageWrite

/-! ## What the tables hold -/

/-- The value an update adds to the item with a key. -/
def AggregateUpdate.adds (amount : AggregateUpdate → Int) (pk sk : String)
    (update : AggregateUpdate) : Int :=
  if update.pk = pk ∧ update.sk = sk then amount update else 0

/-- An attribute of the item with a key, read as zero when there is none. -/
def attributeAt (attr : AggregateItem → Int) (pk sk : String) (items : List AggregateItem) : Int :=
  ((items.find? (AggregateItem.hasKey pk sk)).map attr).getD 0

/-- `ADD` adds to the attribute of the item with its key and to no other. -/
theorem attributeAt_applyUpdate {attr : AggregateItem → Int} {amount : AggregateUpdate → Int}
    (hadd : ∀ item update, attr (AggregateItem.add item update) = attr item + amount update)
    (hcreate : ∀ update, attr (.create update) = amount update) (pk sk : String)
    (update : AggregateUpdate) (items : List AggregateItem) :
    attributeAt attr pk sk (applyUpdate update items) =
      attributeAt attr pk sk items + update.adds amount pk sk := by
  unfold attributeAt AggregateUpdate.adds
  induction items with
  | nil =>
    by_cases hkey : update.pk = pk ∧ update.sk = sk
    · have hnew : AggregateItem.hasKey pk sk (.create update) = true := by
        simpa [AggregateItem.hasKey, AggregateItem.create] using hkey
      simp [applyUpdate, hnew, hkey, hcreate]
    · have hnew : AggregateItem.hasKey pk sk (.create update) = false := by
        simpa [AggregateItem.hasKey, AggregateItem.create] using hkey
      simp [applyUpdate, hnew, hkey]
  | cons item items ih =>
    by_cases hitem : item.hasKey update.pk update.sk = true
    · rw [applyUpdate, if_pos hitem]
      have hsame : AggregateItem.hasKey pk sk (item.add update) = item.hasKey pk sk := rfl
      have hupdate : item.hasKey pk sk = true ↔ update.pk = pk ∧ update.sk = sk := by
        simp only [AggregateItem.hasKey, Bool.and_eq_true, beq_iff_eq] at hitem ⊢
        rw [hitem.1, hitem.2]
      by_cases hkey : item.hasKey pk sk = true
      · simp [hsame, hkey, hupdate.mp hkey, hadd]
      · have hne := mt hupdate.mpr hkey
        simp [hsame, hkey, hne]
    · rw [applyUpdate, if_neg hitem]
      by_cases hkey : item.hasKey pk sk = true
      · have hne : ¬ (update.pk = pk ∧ update.sk = sk) := by
          intro h
          obtain ⟨rfl, rfl⟩ := h
          exact hitem hkey
        simp [hkey, hne]
      · simpa [hkey] using ih

theorem requestCount_applyUpdate (pk sk : String) (update : AggregateUpdate)
    (items : List AggregateItem) :
    attributeAt AggregateItem.requestCount pk sk (applyUpdate update items) =
      attributeAt AggregateItem.requestCount pk sk items + update.adds AggregateUpdate.one pk sk :=
  attributeAt_applyUpdate (fun _ _ => rfl) (fun _ => rfl) pk sk update items

theorem usageUnits_applyUpdate (pk sk : String) (update : AggregateUpdate)
    (items : List AggregateItem) :
    attributeAt AggregateItem.usageUnits pk sk (applyUpdate update items) =
      attributeAt AggregateItem.usageUnits pk sk items + update.adds AggregateUpdate.units pk sk :=
  attributeAt_applyUpdate (fun _ _ => rfl) (fun _ => rfl) pk sk update items

namespace UsageWrite

variable {repr : Json → String}

/-- What a collection of writes adds up to for a tenant and a month. -/
def total (amount : AggregateUpdate → Int) (tenant : String) (m : BillingMonth)
    (ws : Multiset (UsageWrite repr)) : Int :=
  (ws.map fun w => w.update.adds amount (partitionKey tenant) (monthKey m)).sum

@[simp] theorem total_add (amount : AggregateUpdate → Int) (tenant : String) (m : BillingMonth)
    (ws ws' : Multiset (UsageWrite repr)) :
    total amount tenant m (ws + ws') = total amount tenant m ws + total amount tenant m ws' := by
  simp [total]

@[simp] theorem total_zero (amount : AggregateUpdate → Int) (tenant : String) (m : BillingMonth) :
    total amount tenant m (0 : Multiset (UsageWrite repr)) = 0 := rfl

theorem total_nonneg {amount : AggregateUpdate → Int}
    (hamount : ∀ w : UsageWrite repr, 0 ≤ amount w.update) (tenant : String) (m : BillingMonth)
    (ws : Multiset (UsageWrite repr)) : 0 ≤ total amount tenant m ws := by
  apply Multiset.sum_nonneg
  intro x hx
  obtain ⟨w, -, rfl⟩ := Multiset.mem_map.mp hx
  unfold AggregateUpdate.adds
  split
  · exact hamount w
  · exact le_rfl

/-- Two measures of a write: it is one request, and it is so many units. -/
theorem one_nonneg (w : UsageWrite repr) : 0 ≤ w.update.one := by
  rw [w.update_one]
  decide

theorem update_units_nonneg (w : UsageWrite repr) : 0 ≤ w.update.units := by
  rw [w.update_units]
  exact w.units_nonneg

theorem adds_eq (amount : AggregateUpdate → Int) (w : UsageWrite repr) (tenant : String)
    (m : BillingMonth) :
    w.update.adds amount (partitionKey tenant) (monthKey m) =
      if w.item.filedUnder tenant m then amount w.update else 0 := by
  unfold AggregateUpdate.adds
  simp only [w.update_key_iff, w.filedUnder_item]

/-- A sum over the rows of a tenant's month, when each row measures as its write does. -/
theorem sum_filedUnder {size : LedgerItem → Int} {amount : AggregateUpdate → Int}
    (hsize : ∀ w : UsageWrite repr, size w.item = amount w.update) (tenant : String)
    (m : BillingMonth) (ledger : List LedgerItem) (ws : Multiset (UsageWrite repr))
    (h : (ledger : Multiset LedgerItem) = ws.map item) :
    ((ledger.filter (LedgerItem.filedUnder tenant m)).map size).sum = total amount tenant m ws := by
  have hmul : ((ledger.filter (LedgerItem.filedUnder tenant m)).map size).sum =
      (((ledger : Multiset LedgerItem).filter fun row => row.filedUnder tenant m = true).map
        size).sum := by
    simp
  rw [hmul, h, Multiset.filter_map, Multiset.map_map]
  unfold total
  clear h hmul
  induction ws using Multiset.induction with
  | empty => rfl
  | cons w ws ih =>
    rw [Multiset.map_cons, Multiset.sum_cons, adds_eq]
    by_cases hfiled : w.item.filedUnder tenant m = true
    · rw [Multiset.filter_cons_of_pos ws hfiled, Multiset.map_cons, Multiset.sum_cons, ih,
        if_pos hfiled]
      exact congrArg (· + _) (hsize w)
    · rw [Multiset.filter_cons_of_neg ws hfiled, ih, if_neg hfiled, Int.zero_add]

end UsageWrite

/-! ## Programs that pay what they owe -/

/-- The increment a program stands before. -/
def owed {α : Type} : Metering α → Option AggregateUpdate
  | .call (.updateItem update) _ => some update
  | _ => none

/-- After each put that succeeds the program's next call is the increment of that row, and
the program makes no other increment.  `owes` is the increment due now. -/
def Disciplined (repr : Json → String) {α : Type} : Option AggregateUpdate → Metering α → Prop
  | none, .ret _ => True
  | none, .raise _ => True
  | none, .call (.putItem item) next =>
    (∃ w : UsageWrite repr, w.item = item ∧ Disciplined repr (some w.update) (next (.ok ()))) ∧
      ∀ e, Disciplined repr none (next (.error e))
  | some update, .call (.updateItem update') next =>
    update' = update ∧ ∀ r, Disciplined repr none (next r)
  | _, _ => False

namespace Disciplined

variable {repr : Json → String} {α β : Type}

theorem owed_eq {owes : Option AggregateUpdate} {p : Metering α} (h : Disciplined repr owes p) :
    owed p = owes := by
  cases p with
  | ret a => cases owes <;> first | rfl | exact h.elim
  | raise e => cases owes <;> first | rfl | exact h.elim
  | call op next =>
    cases op with
    | putItem item => cases owes <;> first | rfl | exact h.elim
    | updateItem update =>
      cases owes with
      | none => exact h.elim
      | some update' => exact congrArg some h.1

theorem bind {owes : Option AggregateUpdate} {p : Metering α} {f : α → Metering β}
    (hp : Disciplined repr owes p) (hf : ∀ a, Disciplined repr none (f a)) :
    Disciplined repr owes (p.bind f) := by
  induction p generalizing owes with
  | ret a =>
    cases owes with
    | none => exact hf a
    | some update => exact hp.elim
  | raise e =>
    cases owes with
    | none => trivial
    | some update => exact hp.elim
  | call op next ih =>
    cases op with
    | putItem item =>
      cases owes with
      | none =>
        obtain ⟨⟨w, hw, hnext⟩, herror⟩ := hp
        exact ⟨⟨w, hw, ih _ hnext⟩, fun e => ih _ (herror e)⟩
      | some update => exact hp.elim
    | updateItem update =>
      cases owes with
      | none => exact hp.elim
      | some update' => exact ⟨hp.1, fun r => ih _ (hp.2 r)⟩

theorem handle {owes : Option AggregateUpdate} {p : Metering α} {h : PyError → Metering α}
    (hp : Disciplined repr owes p) (hh : ∀ e, Disciplined repr none (h e)) :
    Disciplined repr owes (p.handle h) := by
  induction p generalizing owes with
  | ret a => exact hp
  | raise e =>
    cases owes with
    | none => exact hh e
    | some update => exact hp.elim
  | call op next ih =>
    cases op with
    | putItem item =>
      cases owes with
      | none =>
        obtain ⟨⟨w, hw, hnext⟩, herror⟩ := hp
        exact ⟨⟨w, hw, ih _ hnext⟩, fun e => ih _ (herror e)⟩
      | some update => exact hp.elim
    | updateItem update =>
      cases owes with
      | none => exact hp.elim
      | some update' => exact ⟨hp.1, fun r => ih _ (hp.2 r)⟩

end Disciplined

section Handler

variable (repr : Json → String)

/-- The duplicate branch owes nothing; the other owes the increment of the row it put. -/
theorem recordUsage_disciplined (w : UsageWrite repr) :
    Disciplined repr none (recordUsage w.item w.update) := by
  refine ⟨⟨w, rfl, rfl, ?_⟩, ?_⟩
  · intro r
    cases r <;> trivial
  · intro e
    by_cases hcond : e = conditionalCheckFailed
    · simp [Prog.handle, hcond, Disciplined]
    · simp [Prog.handle, hcond, Disciplined]

theorem processEvent_disciplined (event : Json) :
    Disciplined repr none (processEvent repr event) := by
  unfold processEvent
  cases hvalid : validate event with
  | error e => trivial
  | ok u =>
    cases hwrites : usageWrites repr event with
    | error e =>
      simp only [Prog.bind_def, Prog.ofExcept, Prog.ret_bind, Prog.raise_bind]
      trivial
    | ok writes =>
      obtain ⟨item, update⟩ := writes
      obtain ⟨w, rfl, rfl⟩ := usageWrites_usageWrite hvalid hwrites
      exact recordUsage_disciplined repr w

theorem handleRecord_disciplined (record : Record) :
    Disciplined repr none (handleRecord repr record) := by
  unfold handleRecord
  apply Disciplined.handle
  · cases hbody : record.body.loads with
    | error e => trivial
    | ok event =>
      apply Disciplined.bind (processEvent_disciplined repr event)
      intro _
      trivial
  · intro e
    trivial

theorem handler_disciplined (records : List Record) :
    Disciplined repr none (handler repr records) := by
  induction records with
  | nil => trivial
  | cons record records ih =>
    apply Disciplined.bind (handleRecord_disciplined repr record)
    intro failed
    apply Disciplined.bind ih
    intro rest
    trivial

/-! Which calls the handler makes. -/

variable {repr}

theorem recordUsage_calls {P : DynamoOp → Prop} {item : LedgerItem} {update : AggregateUpdate}
    (hput : P (.putItem item)) (hupdate : P (.updateItem update)) :
    (recordUsage item update).Calls P := by
  unfold recordUsage
  apply Prog.Calls.bind
  · apply Prog.Calls.handle
    · exact Prog.Calls.bind ((Prog.Calls.perform_iff _).mpr hput) fun _ => trivial
    · intro e
      split
      · trivial
      · trivial
  · intro duplicate
    split
    · trivial
    · exact (Prog.Calls.perform_iff _).mpr hupdate

theorem handleRecord_calls {P : DynamoOp → Prop} {record : Record}
    (h : ∀ event, record.body.loads = .ok event → validate event = .ok () → ∀ item update,
      usageWrites repr event = .ok (item, update) → P (.putItem item) ∧ P (.updateItem update)) :
    (handleRecord repr record).Calls P := by
  unfold handleRecord
  apply Prog.Calls.handle
  · apply Prog.Calls.ofExcept_bind
    intro event hbody
    have hprocess : (processEvent repr event).Calls P := by
      unfold processEvent
      apply Prog.Calls.ofExcept_bind
      intro _ hvalid
      apply Prog.Calls.ofExcept_bind
      rintro ⟨item, update⟩ hwrites
      obtain ⟨hput, hupdate⟩ := h event hbody hvalid item update hwrites
      exact recordUsage_calls hput hupdate
    exact Prog.Calls.bind hprocess fun _ => trivial
  · intro e
    trivial

/-- The handler makes no calls but the writes of the valid events of its batch. -/
theorem handler_calls {P : DynamoOp → Prop} {batch : List Record}
    (h : ∀ record ∈ batch, ∀ event, record.body.loads = .ok event → validate event = .ok () →
      ∀ item update, usageWrites repr event = .ok (item, update) →
        P (.putItem item) ∧ P (.updateItem update)) :
    (handler repr batch).Calls P := by
  induction batch with
  | nil => trivial
  | cons record records ih =>
    have hrecord := handleRecord_calls (h record List.mem_cons_self)
    have hrest := ih fun r hr => h r (List.mem_cons_of_mem _ hr)
    exact Prog.Calls.bind hrecord fun failed => Prog.Calls.bind hrest fun rest => trivial

end Handler

/-! ## The pool refines the tally -/

/-- A row is in the ledger after the step, and no increment of it can follow. -/
def losesIncrement : Lambda × LambdaLabel → Bool
  | (pool, .call _ (.putItem item) (.after _)) => !pool.store.holds item
  | (_, .call _ (.updateItem _) (.before _)) => true
  | (_, .die _ rest) => (owed rest).isSome
  | _ => false

/-- The increments the threads stand before. -/
def owedBy {ι α : Type} (threads : List (ι × Metering α)) : Multiset AggregateUpdate :=
  ↑(threads.filterMap fun t => owed t.2)

theorem owedBy_cons {ι α : Type} (t : ι × Metering α) (threads : List (ι × Metering α)) :
    owedBy (t :: threads) = ↑(owed t.2).toList + owedBy threads := by
  unfold owedBy
  cases h : owed t.2 with
  | none => simp [h]
  | some update => simp [h]

theorem owedBy_middle {ι α : Type} (before after : List (ι × Metering α)) (t : ι × Metering α) :
    owedBy (before ++ t :: after) = ↑(owed t.2).toList + owedBy (before ++ after) := by
  rw [← owedBy_cons]
  exact Multiset.coe_eq_coe.mpr (List.perm_middle.filterMap _)

/-- No two rows have the same key. -/
def DistinctKeys (ledger : List LedgerItem) : Prop :=
  ledger.Pairwise fun row row' => ¬ (row.pk = row'.pk ∧ row.sk = row'.sk)

theorem distinctKeys_concat {tables : Tables} {item : LedgerItem}
    (h : DistinctKeys tables.ledger) (fresh : tables.holds item = false) :
    DistinctKeys (tables.ledger ++ [item]) := by
  refine List.pairwise_append.mpr ⟨h, List.pairwise_singleton _ _, ?_⟩
  intro row hrow row' hrow' hkey
  obtain rfl := List.mem_singleton.mp hrow'
  have hnone := List.any_eq_false.mp fresh row hrow
  simp [hkey] at hnone

/-- The tally behind a pool: the rows are its recorded writes, the aggregate holds its
counted ones, the pending ones are those the threads stand before, and none is lost
exactly when no step so far lost an increment. -/
structure Represents (repr : Json → String) (trace : LambdaTrace) (pool : Lambda)
    (t : Tally (UsageWrite repr)) : Prop where
  ledger : (pool.store.ledger : Multiset LedgerItem) = t.recorded.map UsageWrite.item
  requests : ∀ pk sk, attributeAt AggregateItem.requestCount pk sk pool.store.aggregate =
    (t.counted.map fun w => w.update.adds AggregateUpdate.one pk sk).sum
  units : ∀ pk sk, attributeAt AggregateItem.usageUnits pk sk pool.store.aggregate =
    (t.counted.map fun w => w.update.adds AggregateUpdate.units pk sk).sum
  pending : owedBy pool.threads = t.pending.map UsageWrite.update
  lost : t.lost = 0 ↔ ∀ x ∈ trace, losesIncrement x = false
  keys : DistinctKeys pool.store.ledger
  disciplined : ∀ thread ∈ pool.threads, Disciplined repr (owed thread.2) thread.2

section Simulation

variable {repr : Json → String}

theorem represents_empty : Represents repr [] Lambda.init Tally.empty where
  ledger := rfl
  requests _ _ := rfl
  units _ _ := rfl
  pending := rfl
  lost := by simp [Tally.empty]
  keys := List.Pairwise.nil
  disciplined := by simp [Lambda.init]

theorem lost_snoc {t : Tally (UsageWrite repr)} {trace : LambdaTrace} {x : Lambda × LambdaLabel}
    (h : t.lost = 0 ↔ ∀ x ∈ trace, losesIncrement x = false) (hx : losesIncrement x = false) :
    t.lost = 0 ↔ ∀ y ∈ trace ++ [x], losesIncrement y = false := by
  simp [h, hx, or_imp, forall_and]

theorem lost_cons_snoc {w : UsageWrite repr} {lost : Multiset (UsageWrite repr)}
    {trace : LambdaTrace} {x : Lambda × LambdaLabel} (hx : losesIncrement x = true) :
    w ::ₘ lost = 0 ↔ ∀ y ∈ trace ++ [x], losesIncrement y = false := by
  simp [hx, or_imp, forall_and]

/-- Replacing one thread keeps the discipline when the new one obeys it. -/
theorem disciplined_middle {before after : List (List Record × Metering (List String))}
    {thread thread' : List Record × Metering (List String)} {owes : Option AggregateUpdate}
    (h : ∀ t ∈ before ++ thread :: after, Disciplined repr (owed t.2) t.2)
    (h' : Disciplined repr owes thread'.2) :
    ∀ t ∈ before ++ thread' :: after, Disciplined repr (owed t.2) t.2 := by
  intro t ht
  rcases List.mem_append.mp ht with ht | ht
  · exact h t (by simp [ht])
  · rcases List.mem_cons.mp ht with rfl | ht
    · rw [h'.owed_eq]
      exact h'
    · exact h t (by simp [ht])

/-- A thread that leaves the pool may leave one pending write behind. -/
theorem disciplined_remove {before after : List (List Record × Metering (List String))}
    {thread : List Record × Metering (List String)}
    (h : ∀ t ∈ before ++ thread :: after, Disciplined repr (owed t.2) t.2) :
    ∀ t ∈ before ++ after, Disciplined repr (owed t.2) t.2 := by
  intro t ht
  rcases List.mem_append.mp ht with ht | ht
  · exact h t (by simp [ht])
  · exact h t (by simp [ht])

section Step

variable {trace : LambdaTrace} {s : Tables} {tag : List Record} {label : LambdaLabel}
  {before after : List (List Record × Metering (List String))}
  {next : Except PyError Unit → Metering (List String)} {t : Tally (UsageWrite repr)}

/-- A put that does not take effect changes nothing. -/
theorem represents_put_refused {item : LedgerItem} {e : PyError}
    (h : Represents repr trace ⟨s, before ++ (tag, .call (.putItem item) next) :: after⟩ t)
    (hkeep : losesIncrement
      (⟨s, before ++ (tag, .call (.putItem item) next) :: after⟩, label) = false) :
    Represents repr (trace ++ [(⟨s, before ++ (tag, .call (.putItem item) next) :: after⟩, label)])
      ⟨s, before ++ (tag, next (.error e)) :: after⟩ t := by
  have hself := h.disciplined (tag, .call (.putItem item) next) (by simp)
  have hnext : Disciplined repr none (next (.error e)) := hself.2 e
  have hpending := h.pending
  refine ⟨h.ledger, h.requests, h.units, ?_, lost_snoc h.lost hkeep, h.keys,
    disciplined_middle h.disciplined hnext⟩
  rw [owedBy_middle] at hpending ⊢
  rw [hnext.owed_eq]
  exact hpending

/-- A put that takes effect records its write; the invocation now owes the increment,
unless it was told that the put failed. -/
theorem represents_put {item : LedgerItem} (fresh : s.holds item = false)
    (h : Represents repr trace ⟨s, before ++ (tag, .call (.putItem item) next) :: after⟩ t)
    (reach : t.Reachable) (outcome : Outcome) :
    ∃ t', Tally.Reachable t' ∧
      Represents repr
        (trace ++ [(⟨s, before ++ (tag, .call (.putItem item) next) :: after⟩,
          .call tag (.putItem item) outcome)])
        ⟨(execOp outcome s (.putItem item)).2,
          before ++ (tag, next (execOp outcome s (.putItem item)).1) :: after⟩ t' := by
  have hself := h.disciplined (tag, .call (.putItem item) next) (by simp)
  obtain ⟨⟨w, rfl, hok⟩, herror⟩ := hself
  obtain ⟨recorded, counted, pending, lost⟩ := t
  obtain ⟨hledger, hrequests, hunits, hpending, hlost, hkeys, hdisciplined⟩ := h
  have hput : applyOp s (.putItem w.item) =
      (.ok (), { s with ledger := s.ledger ++ [w.item] }) := by
    simp [applyOp, fresh]
  have hledger' : ((s.ledger ++ [w.item] : List LedgerItem) : Multiset LedgerItem) =
      (w ::ₘ recorded).map UsageWrite.item := by
    rw [Multiset.map_cons, ← hledger, ← Multiset.coe_add, add_comm]
    rfl
  have hkeys' := distinctKeys_concat hkeys fresh
  cases outcome with
  | success =>
    refine ⟨_, .step reach (.record w ..), ?_⟩
    rw [execOp, hput]
    refine ⟨hledger', hrequests, hunits, ?_, lost_snoc hlost rfl, hkeys',
      disciplined_middle hdisciplined hok⟩
    rw [owedBy_middle] at hpending ⊢
    rw [hok.owed_eq, Multiset.map_cons, ← hpending]
    simp [owed]
  | before e =>
    exact ⟨_, reach, represents_put_refused
      ⟨hledger, hrequests, hunits, hpending, hlost, hkeys, hdisciplined⟩ rfl⟩
  | after e =>
    refine ⟨_, .step (.step reach (.record w ..)) (.lose w ..), ?_⟩
    rw [execOp, hput]
    have hloses : losesIncrement (⟨s, before ++ (tag, .call (.putItem w.item) next) :: after⟩,
        .call tag (.putItem w.item) (.after e)) = true := by
      simp [losesIncrement, fresh]
    refine ⟨hledger', hrequests, hunits, ?_, lost_cons_snoc hloses, hkeys',
      disciplined_middle hdisciplined (herror e)⟩
    rw [owedBy_middle] at hpending ⊢
    rw [(herror e).owed_eq, ← hpending]
    simp [owed]

/-- The increment a thread stands before is that of a pending write. -/
theorem exists_pending {p : Metering (List String)} {update : AggregateUpdate}
    (hp : owed p = some update)
    (h : Represents repr trace ⟨s, before ++ (tag, p) :: after⟩ t) :
    ∃ w pending, w.update = update ∧ t.pending = w ::ₘ pending ∧
      owedBy (before ++ after) = pending.map UsageWrite.update := by
  have hpending := h.pending
  rw [owedBy_middle, hp] at hpending
  have hmem : update ∈ t.pending.map UsageWrite.update := by
    rw [← hpending]
    simp
  obtain ⟨w, hw, rfl⟩ := Multiset.mem_map.mp hmem
  obtain ⟨pending, hcons⟩ := Multiset.exists_cons_of_mem hw
  refine ⟨w, pending, rfl, hcons, ?_⟩
  rw [hcons, Multiset.map_cons] at hpending
  simpa using hpending

/-- An increment that takes effect counts the write; one that does not loses it. -/
theorem represents_update {update : AggregateUpdate}
    (h : Represents repr trace ⟨s, before ++ (tag, .call (.updateItem update) next) :: after⟩ t)
    (reach : t.Reachable) (outcome : Outcome) :
    ∃ t', Tally.Reachable t' ∧
      Represents repr
        (trace ++ [(⟨s, before ++ (tag, .call (.updateItem update) next) :: after⟩,
          .call tag (.updateItem update) outcome)])
        ⟨(execOp outcome s (.updateItem update)).2,
          before ++ (tag, next (execOp outcome s (.updateItem update)).1) :: after⟩ t' := by
  have hself := h.disciplined (tag, .call (.updateItem update) next) (by simp)
  have hnext : ∀ r, Disciplined repr none (next r) := hself.2
  obtain ⟨w, pending', rfl, hcons, howed⟩ := exists_pending rfl h
  obtain ⟨recorded, counted, pending, lost⟩ := t
  obtain rfl : pending = w ::ₘ pending' := hcons
  obtain ⟨hledger, hrequests, hunits, -, hlost, hkeys, hdisciplined⟩ := h
  have hpending : ∀ r,
      owedBy (before ++ (tag, next r) :: after) = pending'.map UsageWrite.update := by
    intro r
    rw [owedBy_middle, (hnext r).owed_eq, howed]
    simp
  have hrequests' : ∀ pk sk,
      attributeAt AggregateItem.requestCount pk sk (applyUpdate w.update s.aggregate) =
        ((w ::ₘ counted).map fun w => w.update.adds AggregateUpdate.one pk sk).sum := by
    intro pk sk
    rw [requestCount_applyUpdate, hrequests, Multiset.map_cons, Multiset.sum_cons, add_comm]
  have hunits' : ∀ pk sk,
      attributeAt AggregateItem.usageUnits pk sk (applyUpdate w.update s.aggregate) =
        ((w ::ₘ counted).map fun w => w.update.adds AggregateUpdate.units pk sk).sum := by
    intro pk sk
    rw [usageUnits_applyUpdate, hunits, Multiset.map_cons, Multiset.sum_cons, add_comm]
  cases outcome with
  | success =>
    exact ⟨_, .step reach (.count w ..), hledger, hrequests', hunits', hpending _,
      lost_snoc hlost rfl, hkeys, disciplined_middle hdisciplined (hnext _)⟩
  | before e =>
    exact ⟨_, .step reach (.lose w ..), hledger, hrequests, hunits, hpending _,
      lost_cons_snoc rfl, hkeys, disciplined_middle hdisciplined (hnext _)⟩
  | after e =>
    exact ⟨_, .step reach (.count w ..), hledger, hrequests', hunits', hpending _,
      lost_snoc hlost rfl, hkeys, disciplined_middle hdisciplined (hnext _)⟩

/-- A thread that owes nothing can leave. -/
theorem represents_leave {p : Metering (List String)} (hp : owed p = none)
    (h : Represents repr trace ⟨s, before ++ (tag, p) :: after⟩ t)
    (hkeep : losesIncrement (⟨s, before ++ (tag, p) :: after⟩, label) = false) :
    Represents repr (trace ++ [(⟨s, before ++ (tag, p) :: after⟩, label)])
      ⟨s, before ++ after⟩ t := by
  have hpending := h.pending
  refine ⟨h.ledger, h.requests, h.units, ?_, lost_snoc h.lost hkeep, h.keys,
    disciplined_remove h.disciplined⟩
  rw [owedBy_middle, hp] at hpending
  simpa using hpending

/-- Every step of the pool is matched by steps of the tally. -/
theorem represents_step {pool pool' : Lambda}
    (step : Pool.Step execOp (handler repr) pool label pool') (h : Represents repr trace pool t)
    (reach : t.Reachable) :
    ∃ t', Tally.Reachable t' ∧ Represents repr (trace ++ [(pool, label)]) pool' t' := by
  cases step with
  | start s threads tag =>
    have hbody := handler_disciplined repr tag
    refine ⟨t, reach, h.ledger, h.requests, h.units, ?_, lost_snoc h.lost rfl, h.keys, ?_⟩
    · rw [owedBy_cons, hbody.owed_eq, h.pending]
      simp
    · intro thread hthread
      rcases List.mem_cons.mp hthread with rfl | hthread
      · rw [hbody.owed_eq]
        exact hbody
      · exact h.disciplined thread hthread
  | call s before after tag op next outcome =>
    cases op with
    | putItem item =>
      by_cases fresh : s.holds item = false
      · exact represents_put fresh h reach outcome
      · have hheld : s.holds item = true := by simpa using fresh
        have hput : applyOp s (.putItem item) = (.error conditionalCheckFailed, s) := by
          simp [applyOp, hheld]
        refine ⟨t, reach, ?_⟩
        cases outcome with
        | success =>
          rw [execOp, hput]
          exact represents_put_refused h rfl
        | before e => exact represents_put_refused h rfl
        | after e =>
          rw [execOp, hput]
          exact represents_put_refused h (by simp [losesIncrement, hheld])
    | updateItem update => exact represents_update h reach outcome
  | die s before after tag p =>
    cases howed : owed p with
    | none => exact ⟨t, reach, represents_leave howed h (by simp [losesIncrement, howed])⟩
    | some update =>
      obtain ⟨w, pending', -, hcons, howed'⟩ := exists_pending howed h
      obtain ⟨recorded, counted, pending, lost⟩ := t
      obtain rfl : pending = w ::ₘ pending' := hcons
      have hloses : losesIncrement (⟨s, before ++ (tag, p) :: after⟩, .die tag p) = true := by
        simp [losesIncrement, howed]
      exact ⟨_, .step reach (.lose w ..), h.ledger, h.requests, h.units, howed',
        lost_cons_snoc hloses, h.keys, disciplined_remove h.disciplined⟩
  | done s before after tag a => exact ⟨t, reach, represents_leave rfl h rfl⟩
  | crash s before after tag e => exact ⟨t, reach, represents_leave rfl h rfl⟩

end Step

theorem represents_run {trace : LambdaTrace} {pool : Lambda} (run : Lambda.Run repr trace pool) :
    ∃ t : Tally (UsageWrite repr), t.Reachable ∧ Represents repr trace pool t := by
  induction run with
  | nil => exact ⟨_, .empty, represents_empty⟩
  | snoc run step ih =>
    obtain ⟨t, reach, h⟩ := ih
    exact represents_step step h reach

end Simulation

/-! ## What the tables say -/

section Totals

variable {repr : Json → String} {trace : LambdaTrace} {pool : Lambda} {t : Tally (UsageWrite repr)}

theorem requestCount_eq (h : Represents repr trace pool t) (tenant : String) (m : BillingMonth) :
    pool.store.requestCount tenant m = UsageWrite.total AggregateUpdate.one tenant m t.counted :=
  h.requests _ _

theorem usageUnits_eq (h : Represents repr trace pool t) (tenant : String) (m : BillingMonth) :
    pool.store.usageUnits tenant m = UsageWrite.total AggregateUpdate.units tenant m t.counted :=
  h.units _ _

theorem ledgerCount_eq (h : Represents repr trace pool t) (tenant : String) (m : BillingMonth) :
    pool.store.ledgerCount tenant m = UsageWrite.total AggregateUpdate.one tenant m t.recorded := by
  have hsum := @UsageWrite.sum_filedUnder repr (fun _ => 1) AggregateUpdate.one
    (fun w => w.update_one.symm) tenant m _ _ h.ledger
  rw [← hsum]
  simp [Tables.ledgerCount]

theorem ledgerUnits_eq (h : Represents repr trace pool t) (tenant : String) (m : BillingMonth) :
    pool.store.ledgerUnits tenant m =
      UsageWrite.total AggregateUpdate.units tenant m t.recorded :=
  UsageWrite.sum_filedUnder (fun w => w.update_units.symm) tenant m _ _ h.ledger

/-- Counted writes are recorded, so no measure of them exceeds that of the ledger. -/
theorem total_counted_le {amount : AggregateUpdate → Int}
    (hamount : ∀ w : UsageWrite repr, 0 ≤ amount w.update) (reach : t.Reachable) (tenant : String)
    (m : BillingMonth) :
    UsageWrite.total amount tenant m t.counted ≤ UsageWrite.total amount tenant m t.recorded := by
  obtain ⟨rest, hrest⟩ := Multiset.le_iff_exists_add.mp reach.counted_le
  have hnonneg := UsageWrite.total_nonneg hamount tenant m rest
  rw [hrest, UsageWrite.total_add]
  omega

theorem total_one_pos {w : UsageWrite repr} {ws : Multiset (UsageWrite repr)} (hw : w ∈ ws) :
    0 < UsageWrite.total AggregateUpdate.one w.tenant w.month ws := by
  obtain ⟨rest, rfl⟩ := Multiset.exists_cons_of_mem hw
  have hrest := UsageWrite.total_nonneg UsageWrite.one_nonneg w.tenant w.month rest
  have hown : w.update.adds AggregateUpdate.one (partitionKey w.tenant) (monthKey w.month) = 1 := by
    rw [AggregateUpdate.adds, if_pos ⟨w.update_pk, w.update_sk⟩, w.update_one]
  unfold UsageWrite.total at hrest ⊢
  rw [Multiset.map_cons, Multiset.sum_cons, hown]
  omega

/-- When nothing is pending, the tables agree everywhere exactly when nothing was lost. -/
theorem consistent_iff_lost_eq_zero {t : Tally (UsageWrite repr)} (reach : t.Reachable)
    (h : Represents repr trace pool t) (settled : t.pending = 0) :
    (∀ tenant m, pool.store.Consistent tenant m) ↔ t.lost = 0 := by
  constructor
  · intro hall
    have hbalanced : t.recorded = t.counted + t.lost := by
      have := reach.balanced
      rwa [Tally.Balanced, settled, add_zero] at this
    by_contra hlost
    obtain ⟨w, hw⟩ := Multiset.exists_mem_of_ne_zero hlost
    have hcount := (hall w.tenant w.month).1
    have hpos := total_one_pos hw
    rw [requestCount_eq h, ledgerCount_eq h, hbalanced, UsageWrite.total_add] at hcount
    omega
  · intro hlost tenant m
    have heq : t.counted = t.recorded := (reach.counted_eq_iff settled).mpr hlost
    unfold Tables.Consistent
    rw [requestCount_eq h, ledgerCount_eq h, usageUnits_eq h, ledgerUnits_eq h, heq]
    exact ⟨rfl, rfl⟩

end Totals

/-- Two rows record one event: same tenant, same month, same `event_id`, as texts. -/
def LedgerItem.SameEvent (repr : Json → String) (row row' : LedgerItem) : Prop :=
  row.tenantId.format repr = row'.tenantId.format repr ∧
    billingMonth row.eventTimestamp = billingMonth row'.eventTimestamp ∧
    row.eventId.format repr = row'.eventId.format repr

/-- Rows of one event would have one key. -/
theorem UsageWrite.key_eq {repr : Json → String} {w w' : UsageWrite repr}
    (h : w.item.SameEvent repr w'.item) : w.item.pk = w'.item.pk ∧ w.item.sk = w'.item.sk := by
  obtain ⟨htenant, hmonth, hevent⟩ := h
  rw [w.tenant_eq, w'.tenant_eq] at htenant
  rw [w.month_eq, w'.month_eq] at hmonth
  have hkey : w.month.key = w'.month.key := Except.ok.inj hmonth
  refine ⟨?_, ?_⟩
  · rw [w.item_pk, w'.item_pk]
    exact congrArg partitionKey htenant
  · rw [w.item_sk, w'.item_sk, hkey, hevent]

/-- In every state the handler can reach, whatever is delivered and whatever fails, the
aggregate is at most what the ledger adds up to, and an event has one row. -/
theorem aggregate_le_ledger {repr : Json → String} {trace : LambdaTrace} {pool : Lambda}
    (run : Lambda.Run repr trace pool) :
    (∀ tenant m, pool.store.requestCount tenant m ≤ pool.store.ledgerCount tenant m ∧
      pool.store.usageUnits tenant m ≤ pool.store.ledgerUnits tenant m) ∧
    pool.store.ledger.Pairwise fun row row' => ¬ row.SameEvent repr row' := by
  obtain ⟨t, reach, h⟩ := represents_run run
  refine ⟨?_, ?_⟩
  · intro tenant m
    rw [requestCount_eq h, usageUnits_eq h, ledgerCount_eq h, ledgerUnits_eq h]
    exact ⟨total_counted_le UsageWrite.one_nonneg reach tenant m,
      total_counted_le UsageWrite.update_units_nonneg reach tenant m⟩
  · have hwrite : ∀ row ∈ pool.store.ledger, ∃ w : UsageWrite repr, w.item = row := by
      intro row hrow
      have hmem : row ∈ (pool.store.ledger : Multiset LedgerItem) := hrow
      rw [h.ledger] at hmem
      obtain ⟨w, -, hw⟩ := Multiset.mem_map.mp hmem
      exact ⟨w, hw⟩
    apply h.keys.imp_of_mem
    intro row row' hrow hrow' hkeys hsame
    obtain ⟨w, rfl⟩ := hwrite row hrow
    obtain ⟨w', rfl⟩ := hwrite row' hrow'
    exact hkeys (UsageWrite.key_eq hsame)

/-- A message as the API publishes it. -/
def sampleEvent : Json := .obj [
  ("event_id", .str "e-1"), ("tenant_id", .str "TenantA"), ("user_id", .str "u-1"),
  ("api_path", .str "/home"), ("http_method", .str "GET"), ("status_code", .int 200),
  ("usage_units", .int 1), ("timestamp", .str "2026-08-01T10:20:30.123Z")]

def sampleRecord : Record := ⟨"m-1", .json sampleEvent⟩

def august : BillingMonth := ⟨2026, 8, sampleTime.year_range, sampleTime.month_range⟩

/-- Two invocations race on one message; the increment of the winner takes effect and is
reported as failed, the loser sees a duplicate. -/
theorem aggregate_le_ledger_race : ∃ trace pool, Lambda.Run (fun _ => "") trace pool ∧
    trace.length = 5 ∧ pool.store.requestCount "TenantA" august = 1 ∧
    pool.store.requestCount "TenantA" august ≤ pool.store.ledgerCount "TenantA" august := by
  have run : Lambda.Run (fun _ => "") _ _ :=
    ((((Pool.Run.nil.snoc (.start _ _ [sampleRecord])).snoc (.start _ _ [sampleRecord])).snoc
      (.call _ [] [_] [sampleRecord] _ _ Outcome.success)).snoc
      (.call _ [_] [] [sampleRecord] _ _ Outcome.success)).snoc
      (.call _ [] [_] [sampleRecord] _ _ (Outcome.after .botoCoreError))
  exact ⟨_, _, run, rfl, rfl, ((aggregate_le_ledger run).1 "TenantA" august).1⟩

end TenantSaas
