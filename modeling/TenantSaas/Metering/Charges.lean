import TenantSaas.Billing.Pricing
import TenantSaas.Billing.ReadFailures
import TenantSaas.Metering.EndToEnd
import TenantSaas.Tenancy.Integrity
import TenantSaas.Tenancy.Within

/-!
# What a tenant is charged for

From the requests of any browsers, through the queue, the Lambda and the two tables, to the
invoice, while anything may fail and messages may come again: no unit is invoiced for which no
request of the tenant was let in and answered.
-/

namespace TenantSaas

/-! ## What is published -/

/-- The request at the point where `meter_usage` runs, if it was let in. -/
def Served.metered (config : Config) (served : Served) (s : AppState) : Option MeteredRequest :=
  match served.world.run (served.route.guard config served.request) (served.start s) with
  | (.ok (.enter identity), t) =>
    let view := served.route.view config served.lower served.request identity
    match served.world.run (handleErrors view) t with
    | (.ok response, u) => some {
        identity := identity
        method := served.request.method
        path := served.request.path
        statusCode := response.status
        world := served.world
        start := u }
    | (.error _, _) => none
  | _ => none

namespace MeteredRequest

variable {config : Config} {r : MeteredRequest}

/-- `send_message` adds the event to the queue, unless it fails or is not made at all. -/
theorem publish_queue (world : World) (config : Config) (event : Json) (tenant : String)
    (s : AppState) :
    (world.run (publish config event tenant) s).2.queue = s.queue ∨
      (world.run (publish config event tenant) s).2.queue =
        s.queue ++ [(.dumps event, tenant)] := by
  unfold publish
  by_cases hdemo : (config.demoMode || !config.usageMeteringEnabled) = true
  · rw [if_pos hdemo]
    exact .inl rfl
  rw [if_neg hdemo]
  by_cases hurl : config.usageEventsQueueUrl = ""
  · rw [if_pos hurl]
    exact .inl rfl
  rw [if_neg hurl, World.run_perform]
  cases hfailure : world.failure s (.sendMessage (.dumps event) tenant) with
  | some e =>
    rw [World.exec_of_failure hfailure]
    exact .inl rfl
  | none =>
    rw [World.exec_of_answer hfailure]
    exact .inr rfl

/-- A request that is metered leaves the queue as it was, or with its event, and then its status
was one that is billed. -/
theorem finish_queue (config : Config) (r : MeteredRequest) :
    (r.finish config).queue = r.start.queue ∨
      isBillableStatus r.statusCode = true ∧
        (r.finish config).queue = r.start.queue ++ [(.dumps r.event, r.identity.tenant)] := by
  unfold finish recordApiUsage
  by_cases hoff : (!config.usageMeteringEnabled && !config.demoMode) = true
  · rw [if_pos hoff]
    exact .inl rfl
  by_cases hbillable : isBillableStatus r.statusCode = true
  · simp only [hoff, hbillable, Bool.not_true, Bool.false_eq_true, if_false]
    have hbody : r.world.run (do
        let eventId ← perform .uuid4
        let now ← perform .utcnow
        publish config (buildUsageEvent r.identity r.method r.path r.statusCode 1 eventId now)
          r.identity.tenant) r.start =
        r.world.run (publish config r.event r.identity.tenant)
          { r.start with tick := r.start.tick + 2 } := rfl
    have hqueue := publish_queue r.world config r.event r.identity.tenant
      { r.start with tick := r.start.tick + 2 }
    rw [← hbody] at hqueue
    rcases hrun : r.world.run (do
        let eventId ← perform .uuid4
        let now ← perform .utcnow
        publish config (buildUsageEvent r.identity r.method r.path r.statusCode 1 eventId now)
          r.identity.tenant) r.start with ⟨e | u, t⟩ <;> rw [hrun] at hqueue
    · rw [World.run_tryCatch_error hrun]
      exact hqueue.imp id fun h => ⟨trivial, h⟩
    · rw [World.run_tryCatch_ok hrun]
      exact hqueue.imp id fun h => ⟨trivial, h⟩
  · simp only [hoff, hbillable, Bool.not_false, Bool.false_eq_true, if_true, if_false]
    exact .inl rfl

theorem published_cases (config : Config) (r : MeteredRequest) :
    r.published config = [] ∨ isBillableStatus r.statusCode = true ∧
      r.published config = [(.dumps r.event, r.identity.tenant)] := by
  unfold published
  rcases r.finish_queue config with h | ⟨hbillable, h⟩
  · exact .inl (by rw [h, List.drop_length])
  · exact .inr ⟨hbillable, by rw [h, List.drop_left]⟩

theorem queue_published (config : Config) (r : MeteredRequest) :
    (r.finish config).queue = r.start.queue ++ r.published config := by
  unfold published
  rcases r.finish_queue config with h | ⟨-, h⟩
  · rw [h, List.drop_length, List.append_nil]
  · rw [h, List.drop_left]

end MeteredRequest

section Queue

variable {config : Config}

/-- A view sends nothing. -/
theorem view_queue (world : World) (config : Config) (lower : String → String) (request : Request)
    (route : Route) (identity : Identity) (s : AppState) :
    (world.run (handleErrors (route.view config lower request identity)) s).2.queue = s.queue := by
  have hview : Within identity.tenant
      (handleErrors (route.view config lower request identity)) :=
    .tryCatch (view_within lower route) fun _ => .pure _
  have hagree : AgreeFor identity.tenant s s :=
    ⟨rfl, rfl, fun _ _ => rfl, rfl, rfl, fun _ => rfl, fun _ => rfl⟩
  have hself : Isolated identity.tenant s s s s :=
    ⟨hagree, .refl _ s, .refl _ s, ⟨rfl, rfl⟩, ⟨rfl, rfl⟩⟩
  exact (hview world s s s s hself).2.leftSilent.1

theorem Served.metered_of_admitted {served : Served} {s : AppState} {r : MeteredRequest}
    (h : served.metered config s = some r) :
    served.admitted config s = some r.identity ∧ r.world = served.world ∧
      r.method = served.request.method ∧ r.path = served.request.path := by
  unfold Served.metered at h
  unfold Served.admitted
  rcases hguard : served.world.run (served.route.guard config served.request) (served.start s) with
    ⟨e | gate, t⟩ <;> rw [hguard] at h
  · cases h
  cases gate with
  | deny response => cases h
  | enter identity =>
    simp only at h ⊢
    rcases hview : served.world.run (handleErrors
      (served.route.view config served.lower served.request identity)) t with ⟨e | response, u⟩ <;>
      rw [hview] at h <;> cases h
    exact ⟨rfl, rfl, rfl, rfl⟩

/-- What a request leaves on the queue is what is published when it is metered. -/
theorem Served.finish_queue (config : Config) (served : Served) (s : AppState) :
    (served.finish config s).queue = s.queue ++
      (served.metered config s).toList.flatMap fun r => r.published config := by
  rcases served.finish_cases config s with
    ⟨hnone, huntouched⟩ | ⟨identity, t, hguard, huntouched, -, -, hfinish⟩
  · have hmetered : served.metered config s = none := by
      refine Option.eq_none_iff_forall_ne_some.mpr fun r hr => ?_
      have hadmitted := (Served.metered_of_admitted hr).1
      rw [hnone] at hadmitted
      cases hadmitted
    rw [hmetered, show (served.finish config s).queue = s.queue from
      huntouched .queue (by rintro ⟨⟩)]
    simp
  · have hqueue : t.queue = s.queue := huntouched .queue (by rintro ⟨⟩)
    have hview := view_queue served.world config served.lower served.request served.route identity t
    rw [hqueue] at hview
    unfold Served.metered
    rw [hfinish, hguard]
    unfold serveAs
    simp only
    rcases hrun : served.world.run (handleErrors
      (served.route.view config served.lower served.request identity)) t with ⟨e | response, u⟩ <;>
      rw [hrun] at hview
    · rw [World.run_bind_error hrun]
      simpa using hview
    · obtain ⟨v, hmetered⟩ :=
        meterUsage_returns served.world.exec config served.request identity u response
      let r : MeteredRequest := {
        identity := identity
        method := served.request.method
        path := served.request.path
        statusCode := response.status
        world := served.world
        start := u }
      have hfinished : r.finish config = v := congrArg Prod.snd hmetered
      rw [World.run_bind_ok hrun, World.run_bind_ok hmetered]
      simp only [Option.toList_some, List.flatMap_singleton]
      calc v.queue
        _ = (r.finish config).queue := by rw [hfinished]
        _ = u.queue ++ r.published config := r.queue_published config
        _ = s.queue ++ r.published config := by rw [show u.queue = s.queue from hview]

/-- The requests of a run that were let in, as they are metered. -/
def meteredRequests (config : Config) (trace : Steps.Trace AppState Served) :
    List MeteredRequest :=
  trace.filterMap fun x => x.2.metered config x.1

theorem flatMap_toList_filterMap {α β γ : Type} (f : α → Option β) (g : β → List γ) (xs : List α) :
    (xs.flatMap fun x => (f x).toList.flatMap g) = (xs.filterMap f).flatMap g := by
  induction xs with
  | nil => rfl
  | cons x xs ih => cases h : f x <;> simp [h, ih]

/-- The queue grows by what is published for the requests, in their order. -/
theorem queue_run {mysql : MySql} {s t : AppState} {trace : Steps.Trace AppState Served}
    (run : Steps.Run (ServedBy config mysql) s trace t) :
    t.queue = s.queue ++
      (meteredRequests config trace).flatMap fun r => r.published config := by
  have hqueue := run.collects (f := AppState.queue)
    (g := fun x => (x.2.metered config x.1).toList.flatMap fun r => r.published config)
    fun s served t hserved => hserved.2 ▸ served.finish_queue config s
  rw [hqueue, flatMap_toList_filterMap]
  rfl

end Queue

/-! ## What is recorded -/

section Ledger

variable {repr : Json → String} {trace : LambdaTrace} {pool : Lambda}

theorem ledger_execOp {P : LedgerItem → Prop} {s : Tables} {op : DynamoOp} (outcome : Outcome)
    (hrows : ∀ row ∈ s.ledger, P row) (hput : ∀ item, op = .putItem item → P item) :
    ∀ row ∈ (execOp outcome s op).2.ledger, P row := by
  have happly : ∀ row ∈ (applyOp s op).2.ledger, P row := by
    intro row hrow
    cases op with
    | putItem item =>
      rw [applyOp] at hrow
      split at hrow
      · exact hrows row hrow
      · rcases List.mem_append.mp hrow with hrow | hrow
        · exact hrows row hrow
        · exact List.mem_singleton.mp hrow ▸ hput item rfl
    | updateItem update => exact hrows row hrow
  cases outcome with
  | success => exact happly
  | before e => exact hrows
  | after e => exact happly

/-- The rows of the ledger are those of the messages that were delivered. -/
theorem ledger_run {P : LedgerItem → Prop} (run : Lambda.Run repr trace pool)
    (delivered : ∀ x ∈ trace, ∀ batch, x.2 = .start batch → ∀ record ∈ batch,
      ∀ event item update, record.body.loads = .ok event →
        usageWrites repr event = .ok (item, update) → P item) :
    ∀ row ∈ pool.store.ledger, P row := by
  let Permitted : LambdaLabel → Prop := fun label => ∀ batch, label = .start batch →
    ∀ record ∈ batch, ∀ event item update, record.body.loads = .ok event →
      usageWrites repr event = .ok (item, update) → P item
  have rule : Pool.ThreadRule execOp (handler repr) Permitted
      (fun s => ∀ row ∈ s.ledger, P row)
      fun _ p _ => p.Calls fun op => ∀ item, op = .putItem item → P item := by
    refine ⟨fun s batch hpermitted _ => ?_, fun s batch op next outcome _ hrows hcalls =>
      ⟨ledger_execOp outcome hrows hcalls.1, hcalls.2 _⟩, fun _ _ _ _ _ _ _ _ _ _ h => h⟩
    refine handler_calls fun record hrecord event hbody _ item update hwrites => ⟨?_, by simp⟩
    rintro item h
    cases h
    exact hpermitted batch rfl record hrecord event item update hbody hwrites
  exact (rule.run run delivered (by simp [Lambda.init, Tables.empty]) (by simp [Lambda.init])).1.1

theorem usageUnits_le_ledgerUnits (run : Lambda.Run repr trace pool) (tenant : String)
    (m : BillingMonth) : pool.store.usageUnits tenant m ≤ pool.store.ledgerUnits tenant m := by
  obtain ⟨t, reach, h⟩ := represents_run run
  rw [usageUnits_eq h, ledgerUnits_eq h]
  exact total_counted_le UsageWrite.update_units_nonneg reach tenant m

/-- While the deliveries are of messages of some requests, the ledger has a row for each of them
at most, for one unit. -/
theorem ledgerUnits_le_requestsOf {rs : List MeteredRequest} (run : Lambda.Run repr trace pool)
    (delivered : ∀ x ∈ trace, ∀ batch, x.2 = .start batch → ∀ record ∈ batch,
      ∃ r ∈ rs, record.body = .dumps r.event) (tenant : String) (m : BillingMonth) :
    pool.store.ledgerUnits tenant m ≤ requestsOf rs tenant m := by
  have hrows : ∀ row ∈ pool.store.ledger, ∃ r ∈ rs, row = r.item := by
    refine ledger_run run fun x hx batch hstart record hrecord event item update hloads
      hwrites => ?_
    obtain ⟨r, hr, hbody⟩ := delivered x hx batch hstart record hrecord
    rw [hbody, Body.loads_dumps] at hloads
    cases hloads
    rw [MeteredRequest.usageWrites_event] at hwrites
    cases hwrites
    exact ⟨r, hr, rfl⟩
  obtain ⟨t, -, h⟩ := represents_run run
  have hnodup : pool.store.ledger.Nodup := by
    refine h.keys.imp ?_
    rintro row row' hkeys rfl
    exact hkeys ⟨rfl, rfl⟩
  let filed := pool.store.ledger.filter (LedgerItem.filedUnder tenant m)
  let charged := rs.filter fun r => r.identity.tenant = tenant ∧ r.month = m
  have hsubset : filed ⊆ charged.map MeteredRequest.item := by
    intro row hrow
    obtain ⟨hmem, hfiled⟩ := List.mem_filter.mp hrow
    obtain ⟨r, hr, rfl⟩ := hrows row hmem
    rw [filedUnder_item] at hfiled
    exact List.mem_map_of_mem (List.mem_filter.mpr ⟨hr, hfiled⟩)
  have hunits : filed.map LedgerItem.usageUnits = filed.map fun _ => 1 := by
    refine List.map_congr_left fun row hrow => ?_
    obtain ⟨r, -, rfl⟩ := hrows row (List.mem_filter.mp hrow).1
    rfl
  have hlength : filed.length ≤ charged.length := by
    have hle := (List.subperm_of_subset (hnodup.filter _) hsubset).length_le
    rwa [List.length_map] at hle
  calc pool.store.ledgerUnits tenant m
    _ = (filed.map LedgerItem.usageUnits).sum := rfl
    _ = filed.length := by rw [hunits]; simp
    _ ≤ charged.length := by exact_mod_cast hlength

end Ledger

/-! ## What is invoiced -/

section Invoices

variable {config : Config} {world : World} {tenant : String} {s : AppState}
  {items : List AggregateItem}

theorem queryRows_cases {n : Nat} {rows : List UsageRow}
    (h : world.queryRows items tenant n = .ok rows) :
    rows = [] ∨ rows = sortedRows items tenant := by
  by_cases hloses : world.LosesQuery tenant n
  · rw [queryRows_of_loses hloses] at h
    exact .inl (Except.ok.inj h).symm
  by_cases hraises : world.RaisesQuery tenant n
  · obtain ⟨e, he⟩ := queryRows_of_raises items hraises
    rw [he] at h
    cases h
  · rw [queryRows_of_answers hloses hraises] at h
    exact .inr (Except.ok.inj h).symm

/-- The invoice prices what the rows of a query, or none, say of its month. -/
def PricedFrom (config : Config) (items : List AggregateItem) (tenant : String)
    (invoice : Invoice) : Prop :=
  ∃ period rows, (rows = [] ∨ rows = sortedRows items tenant) ∧
    invoice = priceInvoice tenant period (planForTenant config tenant) (usageFor rows period)

theorem priced_of_pricedRow {n : Nat} {period : String} {invoices : List Invoice}
    (h : world.pricedRow config items tenant n period = .ok invoices) :
    ∀ invoice ∈ invoices, PricedFrom config items tenant invoice := by
  unfold World.pricedRow at h
  cases hrows : world.queryRows items tenant n with
  | error e =>
    rw [hrows] at h
    cases h
  | ok rows =>
    rw [hrows] at h
    cases h
    intro invoice hinvoice
    cases List.mem_singleton.mp hinvoice
    exact ⟨period, rows, queryRows_cases hrows, rfl⟩

theorem priced_of_pricedRows {n : Nat} {periods : List String} {invoices : List Invoice}
    (h : world.pricedRows config items tenant n periods = .ok invoices) :
    ∀ invoice ∈ invoices, PricedFrom config items tenant invoice := by
  induction periods generalizing n invoices with
  | nil =>
    cases h
    simp
  | cons period periods ih =>
    obtain ⟨rows, hrows, h⟩ := exceptBind_eq_ok.mp h
    obtain ⟨rest, hrest, h⟩ := exceptBind_eq_ok.mp h
    cases h
    intro invoice hinvoice
    rcases List.mem_cons.mp hinvoice with rfl | hinvoice
    · exact ⟨period, rows, queryRows_cases hrows, rfl⟩
    · exact ih hrest invoice hinvoice

/-- So does every invoice that billing is asked for. -/
theorem BillingRequest.priced (billed : config.Billed) (monthly : MonthlyRows s.aggregate tenant)
    {request : BillingRequest} {invoices : List Invoice}
    (h : (world.run (request.run config tenant) s).1 = .ok invoices) :
    ∀ invoice ∈ invoices, PricedFrom config s.aggregate tenant invoice := by
  cases request with
  | invoice period =>
    rw [run_calculateInvoice_asked billed] at h
    exact priced_of_pricedRow h
  | history limit =>
    change (world.run (getInvoices config tenant limit) s).1 = _ at h
    rw [run_getInvoices billed monthly] at h
    obtain ⟨rows, -, h⟩ := exceptBind_eq_ok.mp h
    split at h
    · exact priced_of_pricedRow h
    · exact priced_of_pricedRows h

/-- A month of which the aggregate has no more than so many units is priced for no more. -/
theorem usageFor_le {rows : List UsageRow} (hrows : rows = [] ∨ rows = sortedRows items tenant)
    (filed : FiledByMonth items) (named : MonthsNamed items) {period : String} {n : Nat}
    (h : ∀ m : BillingMonth, period = m.key →
      attributeAt AggregateItem.usageUnits (partitionKey tenant) (monthKey m) items ≤ n) :
    (usageFor rows period).usageUnits ≤ n := by
  have hzero : (0 : Int) ≤ n := Int.natCast_nonneg n
  rcases hrows with rfl | rfl
  · exact hzero
  cases hfind : (sortedRows items tenant).find? fun row => row.billingMonth == period with
  | none =>
    rw [usageFor, hfind]
    exact hzero
  | some row =>
    obtain ⟨item, hitem, rfl⟩ := mem_sortedRows.mp (List.mem_of_find?_eq_some hfind)
    have hfound := List.find?_some hfind
    have hperiod : item.billingMonth = period := eq_of_beq hfound
    obtain ⟨m, hm⟩ := named item (List.mem_filter.mp hitem).1
    obtain rfl : period = m.key := hperiod.symm.trans hm
    rw [usageFor_sortedRows filed]
    exact h m rfl

theorem monthlyRows_of_filed (filed : FiledByMonth items) (named : MonthsNamed items)
    (tenant : String) : MonthlyRows items tenant where
  distinct := by
    refine List.pairwise_map.mpr ((filed.distinct.filter _).imp_of_mem ?_)
    intro item item' hitem hitem' hkeys hmonth
    obtain ⟨hmem, hpk⟩ := List.mem_filter.mp hitem
    obtain ⟨hmem', hpk'⟩ := List.mem_filter.mp hitem'
    refine hkeys ⟨(eq_of_beq hpk).trans (eq_of_beq hpk').symm, ?_⟩
    rw [filed.named item hmem, filed.named item' hmem', hmonth]
  named item hitem := by
    obtain ⟨m, hm⟩ := named item (List.mem_filter.mp hitem).1
    exact hm ▸ m.key_ne

end Invoices

/-- How many requests of a run a tenant may be charged for in a month: those let in for it,
answered with a status that is billed, and dated in the month. -/
def chargeable (config : Config) (tenant period : String)
    (trace : Steps.Trace AppState Served) : Nat :=
  (meteredRequests config trace).countP fun r =>
    r.identity.tenant == tenant && r.month.key == period && isBillableStatus r.statusCode

theorem requestsOf_eq_chargeable (config : Config) (tenant : String) (m : BillingMonth)
    (trace : Steps.Trace AppState Served) :
    requestsOf ((meteredRequests config trace).filter fun r => isBillableStatus r.statusCode)
      tenant m = chargeable config tenant m.key trace := by
  unfold requestsOf chargeable
  rw [List.filter_filter, List.countP_eq_length_filter]
  congr 3
  funext r
  have hmonth : decide (r.month = m) = (r.month.key == m.key) := by
    rw [Bool.eq_iff_iff, decide_eq_true_iff, beq_iff_eq]
    exact ⟨congrArg BillingMonth.key, BillingMonth.key_inj⟩
  rw [Bool.decide_and, hmonth]
  rfl

/-- Whatever failed and whatever was delivered again, no tenant is invoiced for more units than
requests were let in for it and answered, and it pays at most what its plan asks for so many. -/
theorem invoice_le_chargeable {config : Config} {mysql : MySql} {repr : Json → String}
    {s t u : AppState} {trace : Steps.Trace AppState Served} {deliveries : LambdaTrace}
    {pool : Lambda} (billed : config.Billed)
    (run : Steps.Run (ServedBy config mysql) s trace t) (fresh : s.queue = [])
    (handled : Lambda.Run repr deliveries pool)
    (delivered : ∀ x ∈ deliveries, ∀ batch, x.2 = .start batch → ∀ record ∈ batch,
      ∃ message ∈ t.queue, record.body = message.1)
    (stored : u.aggregate = pool.store.aggregate) {world : World} {tenant : String}
    {request : BillingRequest} {invoices : List Invoice}
    (invoiced : (world.run (request.run config tenant) u).1 = .ok invoices) :
    ∀ invoice ∈ invoices,
      invoice.usageUnits ≤ chargeable config tenant invoice.billingPeriod trace ∧
      invoice.totalAmount ≤ (priceInvoice tenant invoice.billingPeriod
        (planForTenant config tenant) ⟨invoice.billingPeriod,
          chargeable config tenant invoice.billingPeriod trace,
          chargeable config tenant invoice.billingPeriod trace⟩).totalAmount := by
  let rs := (meteredRequests config trace).filter fun r => isBillableStatus r.statusCode
  have hmessages : ∀ message ∈ t.queue, ∃ r ∈ rs, message.1 = .dumps r.event := by
    intro message hmessage
    rw [queue_run run, fresh, List.nil_append] at hmessage
    obtain ⟨r, hr, hpublished⟩ := List.mem_flatMap.mp hmessage
    rcases r.published_cases config with hnone | ⟨hbillable, hsome⟩
    · rw [hnone] at hpublished
      cases hpublished
    · rw [hsome] at hpublished
      rw [List.mem_singleton.mp hpublished]
      exact ⟨r, List.mem_filter.mpr ⟨hr, hbillable⟩, rfl⟩
  have hdelivered : ∀ x ∈ deliveries, ∀ batch, x.2 = .start batch → ∀ record ∈ batch,
      ∃ r ∈ rs, record.body = .dumps r.event := by
    intro x hx batch hstart record hrecord
    obtain ⟨message, hmessage, hbody⟩ := delivered x hx batch hstart record hrecord
    obtain ⟨r, hr, hevent⟩ := hmessages message hmessage
    exact ⟨r, hr, hbody.trans hevent⟩
  have hcharged : ∀ m : BillingMonth,
      attributeAt AggregateItem.usageUnits (partitionKey tenant) (monthKey m) u.aggregate ≤
        chargeable config tenant m.key trace := by
    intro m
    calc attributeAt AggregateItem.usageUnits (partitionKey tenant) (monthKey m) u.aggregate
      _ = pool.store.usageUnits tenant m := by rw [stored]; rfl
      _ ≤ pool.store.ledgerUnits tenant m := usageUnits_le_ledgerUnits handled tenant m
      _ ≤ requestsOf rs tenant m := ledgerUnits_le_requestsOf handled hdelivered tenant m
      _ = chargeable config tenant m.key trace := requestsOf_eq_chargeable config tenant m trace
  have filed : FiledByMonth u.aggregate := stored ▸ filedByMonth_run handled
  have named : MonthsNamed u.aggregate := stored ▸ monthsNamed_run handled
  intro invoice hinvoice
  obtain ⟨period, rows, hrows, rfl⟩ :=
    BillingRequest.priced billed (monthlyRows_of_filed filed named tenant) invoiced invoice hinvoice
  have hunits : (usageFor rows period).usageUnits ≤ chargeable config tenant period trace :=
    usageFor_le hrows filed named fun m hm => hm ▸ hcharged m
  exact ⟨hunits, priceInvoice_mono (planForTenant_sound config tenant) hunits⟩

/-- What is metered when the administrator disables the user. -/
def carlDisabled : Body :=
  .dumps (buildUsageEvent sampleAdmin "POST" "/api/v1/admin/users/carl/toggle" 302 1
    (quietWorld.uuid 8) sampleTime)

/-- It is delivered to two invocations that overlap. -/
def carlDeliveries : List (Pool.Move (List Record) Outcome) :=
  [.start [⟨"m-1", carlDisabled⟩], .start [⟨"m-1", carlDisabled⟩], .call 0 .success,
    .call 1 .success, .call 0 .success, .finish 0, .finish 0]

theorem carl_disabled_charged : ∃ trace pool,
    Pool.play execOp (handler fun _ => "") carlDeliveries Lambda.init = some (trace, pool) ∧
    ∃ invoice, (quietWorld.run
      (BillingRequest.run sampleConfig "TenantA" (.invoice (some "2026-08")))
      { emptyState with aggregate := pool.store.aggregate }).1 = .ok [invoice] ∧
      invoice.usageUnits ≤ 1 := by
  have hqueue : (disablesCarl.finish sampleConfig withCarl).queue =
    [(carlDisabled, "TenantA")] := by rfl
  have hchargeable : chargeable sampleConfig "TenantA" "2026-08" [(withCarl, disablesCarl)] =
    1 := by decide
  have hsome : (Pool.play execOp (handler fun _ => "") carlDeliveries Lambda.init).isSome := by
    decide
  obtain ⟨⟨trace, pool⟩, hplay⟩ := Option.isSome_iff_exists.mp hsome
  have billed : sampleConfig.Billed := ⟨rfl, by decide⟩
  have hrun : (quietWorld.run
      (BillingRequest.run sampleConfig "TenantA" (.invoice (some "2026-08")))
      { emptyState with aggregate := pool.store.aggregate }).1 =
      .ok [priceInvoice "TenantA" "2026-08" (planForTenant sampleConfig "TenantA")
        (usageFor (sortedRows pool.store.aggregate "TenantA") "2026-08")] := by
    rw [run_calculateInvoice_asked billed, World.pricedRow, queryRows_of_reads fun _ _ => rfl]
    rfl
  have hdelivered : ∀ x ∈ trace, ∀ batch, x.2 = .start batch → ∀ record ∈ batch,
      ∃ message ∈ (disablesCarl.finish sampleConfig withCarl).queue, record.body = message.1 := by
    intro x hx batch hstart record hrecord
    have hm := Pool.start_of_mem hplay hx hstart
    simp only [carlDeliveries, List.mem_cons, Pool.Move.start.injEq, reduceCtorEq, or_false,
      List.not_mem_nil, or_self] at hm
    rw [hm, List.mem_singleton] at hrecord
    exact ⟨(carlDisabled, "TenantA"), by rw [hqueue]; exact List.mem_singleton_self _,
      by rw [hrecord]⟩
  have hle := invoice_le_chargeable billed (Steps.Run.nil.snoc ⟨rfl, rfl⟩) rfl
    (Pool.run_of_play hplay) hdelivered rfl hrun _ (List.mem_singleton_self _)
  refine ⟨trace, pool, hplay, _, hrun, ?_⟩
  calc _
    _ ≤ (chargeable sampleConfig "TenantA" "2026-08" [(withCarl, disablesCarl)] : Int) := hle.1
    _ = 1 := by rw [hchargeable]; rfl

end TenantSaas
