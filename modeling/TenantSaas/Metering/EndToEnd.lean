import TenantSaas.Metering.BillingReads

/-!
# From request to invoice

The producer, the handler and the billing reader put together: when nothing fails, whatever
the deliveries and their interleaving, an invoice counts exactly the tenant's requests of the
month.
-/

namespace TenantSaas

/-- A step in which nothing fails. -/
def Faultless : LambdaLabel → Prop
  | .call _ _ outcome => outcome = .success
  | .die _ _ => False
  | _ => True

/-- Deliveries of the messages of some requests: nothing else is delivered, each message is
delivered at least once, and nothing fails. -/
structure CleanDeliveries (config : Config) (rs : List MeteredRequest) (trace : LambdaTrace) :
    Prop where
  published : ∀ x ∈ trace, ∀ batch, x.2 = .start batch → ∀ record ∈ batch,
    ∃ r ∈ rs, ∃ message ∈ r.published config, record.body = message.1
  delivered : ∀ r ∈ rs, ∀ message ∈ r.published config,
    ∃ x ∈ trace, ∃ batch, x.2 = .start batch ∧ ∃ record ∈ batch, record.body = message.1
  faultless : ∀ x ∈ trace, Faultless x.2

namespace MeteredRequest

/-- The two writes of a request's event. -/
def usageWrite (repr : Json → String) (r : MeteredRequest) : UsageWrite repr where
  item := r.item
  update := r.update
  tenant := r.identity.tenant
  month := r.month
  tenant_eq := rfl
  month_eq := billingMonth_eventTimestamp (r.world.now_utc _)
  item_pk := rfl
  item_sk := rfl
  update_pk := rfl
  update_sk := rfl
  update_one := rfl
  update_units := rfl
  update_month := rfl
  units_nonneg := Int.one_pos.le

end MeteredRequest

section Handling

variable {repr : Json → String} {rs : List MeteredRequest}

/-- A batch of events of the requests. -/
def OfRequests (rs : List MeteredRequest) (batch : List Record) : Prop :=
  ∀ record ∈ batch, ∃ r ∈ rs, r.Billable ∧ record.body = .dumps r.event

/-- The ledger only grows. -/
def Grows (s s' : Tables) : Prop := ∀ row ∈ s.ledger, row ∈ s'.ledger

theorem Grows.refl (s : Tables) : Grows s s := fun _ h => h

theorem Grows.trans {s s' s'' : Tables} (h : Grows s s') (h' : Grows s' s'') : Grows s s'' :=
  fun row hrow => h' row (h row hrow)

theorem Grows.holds {s s' : Tables} (h : Grows s s') {item : LedgerItem}
    (hheld : s.holds item = true) : s'.holds item = true := by
  rw [Tables.holds, List.any_eq_true] at hheld ⊢
  obtain ⟨row, hrow, hkey⟩ := hheld
  exact ⟨row, h row hrow, hkey⟩

theorem grows_applyOp (s : Tables) (op : DynamoOp) : Grows s (applyOp s op).2 := by
  intro row hrow
  cases op with
  | putItem item =>
    rw [applyOp]
    by_cases hheld : s.holds item = true
    · rw [if_pos hheld]
      exact hrow
    · rw [if_neg hheld]
      exact List.mem_append_left _ hrow
  | updateItem update => exact hrow

theorem grows_execOp (outcome : Outcome) (s : Tables) (op : DynamoOp) :
    Grows s (execOp outcome s op).2 := by
  cases outcome with
  | success => exact grows_applyOp s op
  | before e => exact Grows.refl s
  | after e => exact grows_applyOp s op

/-- What `Ensures` says of a program of the handler that meets no fault. -/
abbrev Handles {α : Type} (Q : Except PyError α → Tables → Prop) (p : Metering α) (s : Tables) :
    Prop :=
  Pool.Ensures execOp (fun outcome => outcome = .success) Grows Q p s

/-- A put that meets no fault leaves the row in the ledger, its own or an earlier one. -/
theorem recordUsage_handles (item : LedgerItem) (update : AggregateUpdate) (s : Tables) :
    Handles (fun result s' => result = .ok () ∧ s'.holds item = true)
      (recordUsage item update) s := by
  intro s₁ _ outcome hsuccess
  subst hsuccess
  rw [execOp, applyOp]
  by_cases hheld : s₁.holds item = true
  · rw [if_pos hheld]
    intro s₂ h₂
    exact ⟨rfl, h₂.holds hheld⟩
  · rw [if_neg hheld]
    have hput : Tables.holds { s₁ with ledger := s₁.ledger ++ [item] } item = true := by
      simp [Tables.holds]
    intro s₂ h₂ outcome hsuccess
    subst hsuccess
    intro s₃ h₃
    exact ⟨rfl, (h₂.trans ((grows_execOp _ _ _).trans h₃)).holds hput⟩

theorem processEvent_handles {r : MeteredRequest} (h : r.Billable) (s : Tables) :
    Handles (fun result s' => result = .ok () ∧ s'.holds r.item = true)
      (processEvent repr r.event) s := by
  unfold processEvent
  rw [MeteredRequest.validate_event h, MeteredRequest.usageWrites_event]
  exact recordUsage_handles r.item r.update s

theorem handleRecord_handles {r : MeteredRequest} (h : r.Billable) {record : Record}
    (hbody : record.body = .dumps r.event) (s : Tables) :
    Handles (fun result s' => result = .ok [] ∧ s'.holds r.item = true)
      (handleRecord repr record) s := by
  unfold handleRecord
  rw [hbody, Body.loads_dumps]
  apply Pool.Ensures.handle Grows.refl
  change Handles _ ((processEvent repr r.event).bind fun _ => Prog.ret []) s
  apply Pool.Ensures.bind Grows.refl
  refine (processEvent_handles h s).mono ?_
  rintro result s' ⟨rfl, hheld⟩
  intro s'' h''
  exact ⟨rfl, h''.holds hheld⟩

/-- Each event of the batch has its row. -/
def Recorded (rs : List MeteredRequest) (batch : List Record) (s : Tables) : Prop :=
  ∀ record ∈ batch, ∃ r ∈ rs, record.body = .dumps r.event ∧ s.holds r.item = true

theorem Recorded.mono {batch : List Record} {s s' : Tables} (h : Recorded rs batch s)
    (hgrows : Grows s s') : Recorded rs batch s' := by
  intro record hrecord
  obtain ⟨r, hr, hbody, hheld⟩ := h record hrecord
  exact ⟨r, hr, hbody, hgrows.holds hheld⟩

/-- The program acknowledges its batch whole, and each event of the batch gets its row. -/
abbrev HandlesBatch (rs : List MeteredRequest) (batch : List Record) (p : Metering (List String))
    (s : Tables) : Prop :=
  Handles (fun result s' => result = .ok [] ∧ Recorded rs batch s') p s

theorem handler_handles {batch : List Record} (h : OfRequests rs batch) (s : Tables) :
    HandlesBatch rs batch (handler repr batch) s := by
  induction batch generalizing s with
  | nil =>
    intro s' _
    exact ⟨rfl, fun _ h => nomatch h⟩
  | cons record records ih =>
    obtain ⟨r, hr, hbillable, hbody⟩ := h record List.mem_cons_self
    apply Pool.Ensures.bind Grows.refl
    refine (handleRecord_handles hbillable hbody s).mono ?_
    rintro result s₁ ⟨rfl, hheld⟩
    apply Pool.Ensures.bind Grows.refl
    have hrest := ih (fun record' hrecord' => h record' (List.mem_cons_of_mem _ hrecord')) s₁
    refine (hrest.since (fun _ _ _ => Grows.trans) grows_execOp (Grows.refl s₁)).mono ?_
    rintro result s₂ ⟨⟨rfl, hrecords⟩, hgrows⟩
    intro s₃ h₃
    refine ⟨rfl, fun record' hrecord' => ?_⟩
    rcases List.mem_cons.mp hrecord' with rfl | hrecord'
    · exact ⟨r, hr, hbody, (hgrows.trans h₃).holds hheld⟩
    · exact hrecords.mono h₃ record' hrecord'

/-- The batches that are started hold events of the requests, and nothing fails. -/
def Clean (rs : List MeteredRequest) (label : LambdaLabel) : Prop :=
  Faultless label ∧ ∀ batch, label = .start batch → OfRequests rs batch

theorem handles_threadRule :
    Pool.ThreadRule execOp (handler repr) (Clean rs) (fun _ => True) (HandlesBatch rs) := by
  apply Pool.Ensures.threadRule Grows.refl (fun _ _ _ => Grows.trans) grows_execOp
  · intro batch op outcome hclean
    exact hclean.1
  · intro batch s hclean
    exact handler_handles (hclean.2 batch rfl) s

/-- The rows of the ledger are rows of the requests. -/
theorem rows_threadRule :
    Pool.ThreadRule execOp (handler repr) (Clean rs)
      (fun s => ∀ row ∈ s.ledger, ∃ r ∈ rs, row = r.item)
      fun _ p _ => p.Calls fun op => ∀ item, op = .putItem item → ∃ r ∈ rs, item = r.item where
  start s batch hclean _ := by
    apply handler_calls
    intro record hrecord event hbody _ item update hwrites
    obtain ⟨r, hr, -, hbody'⟩ := hclean.2 batch rfl record hrecord
    rw [hbody', Body.loads_dumps] at hbody
    obtain rfl := Except.ok.inj hbody
    rw [MeteredRequest.usageWrites_event] at hwrites
    obtain ⟨rfl, rfl⟩ := Prod.mk.inj (Except.ok.inj hwrites)
    refine ⟨?_, by simp⟩
    rintro item h
    cases h
    exact ⟨r, hr, rfl⟩
  call s batch op next outcome _ hrows hcalls := by
    refine ⟨?_, hcalls.2 _⟩
    have happly : ∀ row ∈ (applyOp s op).2.ledger, ∃ r ∈ rs, row = r.item := by
      intro row hrow
      cases op with
      | putItem item =>
        rw [applyOp] at hrow
        by_cases hheld : s.holds item = true
        · rw [if_pos hheld] at hrow
          exact hrows row hrow
        · rw [if_neg hheld] at hrow
          rcases List.mem_append.mp hrow with hrow | hrow
          · exact hrows row hrow
          · rw [List.mem_singleton.mp hrow]
            exact hcalls.1 item rfl
      | updateItem update => exact hrows row hrow
    cases outcome with
    | success => exact happly
    | before e => exact hrows
    | after e => exact happly
  stable _ _ _ _ _ _ _ _ _ _ h := h

end Handling

section Exact

variable {repr : Json → String} {rs : List MeteredRequest} {trace : LambdaTrace} {pool : Lambda}

theorem losesIncrement_of_faultless {x : Lambda × LambdaLabel} (h : Faultless x.2) :
    losesIncrement x = false := by
  obtain ⟨pool, label⟩ := x
  cases label with
  | start tag => rfl
  | call tag op outcome =>
    obtain rfl : outcome = .success := h
    cases op <;> rfl
  | die tag rest => exact h.elim
  | finish tag result => rfl

theorem clean_of_deliveries {config : Config} (hconfig : config.Metering)
    (hbillable : ∀ r ∈ rs, r.Billable) (hsends : ∀ r ∈ rs, r.Sends)
    (h : CleanDeliveries config rs trace) : ∀ x ∈ trace, Clean rs x.2 := by
  intro x hx
  refine ⟨h.faultless x hx, fun batch hstart record hrecord => ?_⟩
  obtain ⟨r, hr, message, hmessage, hbody⟩ := h.published x hx batch hstart record hrecord
  rw [MeteredRequest.published_eq hconfig (hbillable r hr) (hsends r hr)] at hmessage
  obtain rfl := List.mem_singleton.mp hmessage
  exact ⟨r, hr, hbillable r hr, hbody⟩

theorem item_eq_of_event_eq {r r' : MeteredRequest} (h : r.event = r'.event) :
    r.item = r'.item := by
  have hwrites := r.usageWrites_event fun _ => ""
  rw [h, MeteredRequest.usageWrites_event] at hwrites
  exact (Prod.mk.inj (Except.ok.inj hwrites)).1.symm

/-- Every delivered event has its row once all invocations have finished. -/
theorem holds_of_finished (run : Lambda.Run repr trace pool) (clean : ∀ x ∈ trace, Clean rs x.2)
    (finished : pool.threads = []) {x : Lambda × LambdaLabel} (hx : x ∈ trace)
    {batch : List Record} (hstart : x.2 = .start batch) {record : Record} (hrecord : record ∈ batch)
    {r : MeteredRequest} (hbody : record.body = .dumps r.event) :
    pool.store.holds r.item = true := by
  have rule : Pool.ThreadRule execOp (handler repr) (Clean rs) _ _ := handles_threadRule
  have last : ∀ batch s result,
      Pool.Ended (HandlesBatch rs) batch s result → Recorded rs batch s := by
    intro batch s result hended
    cases result with
    | ok a => exact (hended s (Grows.refl s)).2
    | error e => exact (hended s (Grows.refl s)).2
  have stable : ∀ batch s op outcome, Recorded rs batch s →
      Recorded rs batch (execOp outcome s op).2 := by
    intro batch s op outcome hpost
    exact hpost.mono (grows_execOp outcome s op)
  have hsettled := rule.settled last stable (fun _ _ h => h.1) run clean trivial
    (by simp [Lambda.init]) hx hstart
  rcases hsettled with ⟨p, hp⟩ | hpost
  · rw [finished] at hp
    cases hp
  · obtain ⟨r', -, hbody', hheld⟩ := hpost record hrecord
    have hevent : r.event = r'.event := Body.json.inj (hbody.symm.trans hbody')
    rw [item_eq_of_event_eq hevent]
    exact hheld

/-- Two requests whose rows have one key drew one event id. -/
theorem eventId_eq_of_key {r r' : MeteredRequest} (h : r.item.sk = r'.item.sk) :
    r.eventId = r'.eventId := by
  have hmonth : r.month = r'.month := by
    have hself := ((r'.usageWrite fun _ => "").startswith_item_sk r'.month).mpr rfl
    have hother := (r.usageWrite fun _ => "").startswith_item_sk r'.month
    exact hother.mp ((congrArg (PyStr.startswith · _) h).trans hself)
  have hsk : "USAGE#" ++ r.month.key ++ "#" ++ r.eventId =
      "USAGE#" ++ r'.month.key ++ "#" ++ r'.eventId := h
  rw [hmonth] at hsk
  exact (String.append_right_inj _).mp hsk

/-- With nothing failing, the ledger holds one row for each request and no other. -/
theorem ledger_perm (run : Lambda.Run repr trace pool) (clean : ∀ x ∈ trace, Clean rs x.2)
    (held : ∀ r ∈ rs, pool.store.holds r.item = true)
    (hdistinct : (rs.map MeteredRequest.eventId).Nodup) :
    pool.store.ledger.Perm (rs.map MeteredRequest.item) := by
  obtain ⟨t, reach, h⟩ := represents_run run
  have hledger : pool.store.ledger.Nodup := by
    refine h.keys.imp ?_
    rintro row row' hkeys rfl
    exact hkeys ⟨rfl, rfl⟩
  have hitems : (rs.map MeteredRequest.item).Nodup := by
    apply List.Nodup.of_map LedgerItem.eventId
    have hids : (rs.map MeteredRequest.item).map LedgerItem.eventId =
        (rs.map MeteredRequest.eventId).map Json.str := by
      simp [MeteredRequest.item]
    rw [hids]
    exact hdistinct.map fun _ _ h => Json.str.inj h
  have hrows := (rows_threadRule.run run clean (by simp [Lambda.init, Tables.empty])
    (by simp [Lambda.init])).1.1
  rw [List.perm_ext_iff_of_nodup hledger hitems]
  intro row
  constructor
  · intro hrow
    obtain ⟨r, hr, rfl⟩ := hrows row hrow
    exact List.mem_map_of_mem hr
  · intro hrow
    obtain ⟨r, hr, rfl⟩ := List.mem_map.mp hrow
    have hheld := held r hr
    rw [Tables.holds, List.any_eq_true] at hheld
    obtain ⟨row', hrow', hkey⟩ := hheld
    obtain ⟨r', hr', rfl⟩ := hrows row' hrow'
    simp only [Bool.and_eq_true, beq_iff_eq] at hkey
    have hid := eventId_eq_of_key hkey.2
    rw [List.inj_on_of_nodup_map hdistinct hr' hr hid] at hrow'
    exact hrow'

/-- The requests of a tenant in a month. -/
def requestsOf (rs : List MeteredRequest) (tenant : String) (m : BillingMonth) : Int :=
  (rs.filter fun r => r.identity.tenant = tenant ∧ r.month = m).length

theorem filedUnder_item (r : MeteredRequest) (tenant : String) (m : BillingMonth) :
    r.item.filedUnder tenant m = decide (r.identity.tenant = tenant ∧ r.month = m) := by
  rw [Bool.eq_iff_iff, decide_eq_true_iff]
  exact (r.usageWrite fun _ => "").filedUnder_item tenant m

theorem ledgerCount_of_perm {s : Tables} (h : s.ledger.Perm (rs.map MeteredRequest.item))
    (tenant : String) (m : BillingMonth) : s.ledgerCount tenant m = requestsOf rs tenant m := by
  have hlength := (h.filter (LedgerItem.filedUnder tenant m)).length_eq
  rw [Tables.ledgerCount, requestsOf, hlength, List.filter_map, List.length_map]
  congr 3
  funext r
  exact filedUnder_item r tenant m

theorem ledgerUnits_of_perm {s : Tables} (h : s.ledger.Perm (rs.map MeteredRequest.item))
    (tenant : String) (m : BillingMonth) : s.ledgerUnits tenant m = requestsOf rs tenant m := by
  have hsum := ((h.filter (LedgerItem.filedUnder tenant m)).map LedgerItem.usageUnits).sum_eq
  have hone : ∀ l : List MeteredRequest,
      ((l.map MeteredRequest.item).map LedgerItem.usageUnits).sum = l.length := by
    intro l
    have hunits : LedgerItem.usageUnits ∘ MeteredRequest.item = fun _ => 1 := rfl
    simp [hunits]
  rw [Tables.ledgerUnits, requestsOf, hsum, List.filter_map, hone]
  congr 3
  funext r
  exact filedUnder_item r tenant m

/-- With nothing failing and nothing running, the aggregate says what the ledger says. -/
theorem consistent_of_faultless (run : Lambda.Run repr trace pool)
    (faultless : ∀ x ∈ trace, Faultless x.2) (finished : pool.threads = []) (tenant : String)
    (m : BillingMonth) : pool.store.Consistent tenant m := by
  obtain ⟨t, reach, h⟩ := represents_run run
  have hpending : t.pending = 0 := by
    have howed := h.pending
    rw [finished] at howed
    exact Multiset.map_eq_zero.mp howed.symm
  have hlost : t.lost = 0 := h.lost.mpr fun x hx => losesIncrement_of_faultless (faultless x hx)
  exact (consistent_iff_lost_eq_zero reach h hpending).mpr hlost tenant m

end Exact

/-- Metering is exact when nothing fails: every event is accepted, no message is reported, and
usage and invoice of every tenant and month count exactly the tenant's requests. -/
theorem metering_exact {config : Config} {repr : Json → String} {rs : List MeteredRequest}
    {trace : LambdaTrace} {pool : Lambda} (hconfig : config.Metering)
    (hbillable : ∀ r ∈ rs, r.Billable) (hsends : ∀ r ∈ rs, r.Sends)
    (hdistinct : (rs.map MeteredRequest.eventId).Nodup) (run : Lambda.Run repr trace pool)
    (deliveries : CleanDeliveries config rs trace) (finished : pool.threads = []) :
    (∀ r ∈ rs, ∃ event, r.published config = [(.json event, r.identity.tenant)] ∧
      validate event = .ok ()) ∧
    (∀ x ∈ trace, ∀ batch result, x.2 = .finish batch result → result = .ok []) ∧
    ∀ tenant m (world : World) (s : AppState), world.Reads → s.aggregate = pool.store.aggregate →
      (world.run (getTenantUsage config tenant (some m.key)) s).1 =
        .ok ⟨m.key, requestsOf rs tenant m, requestsOf rs tenant m⟩ ∧
      ∃ invoice, (world.run (calculateInvoice config tenant (some m.key)) s).1 = .ok invoice ∧
        invoice.usageUnits = requestsOf rs tenant m := by
  have clean := clean_of_deliveries hconfig hbillable hsends deliveries
  refine ⟨?_, ?_, ?_⟩
  · intro r hr
    exact ⟨r.event, MeteredRequest.published_eq hconfig (hbillable r hr) (hsends r hr),
      MeteredRequest.validate_event (hbillable r hr)⟩
  · intro x hx batch result hfinish
    have rule : Pool.ThreadRule execOp (handler repr) (Clean rs) _ _ := handles_threadRule
    have hended := rule.ended run clean trivial (by simp [Lambda.init]) hx hfinish
    cases result with
    | ok failed => exact (hended _ (Grows.refl _)).1
    | error e => exact (hended _ (Grows.refl _)).1
  · intro tenant m world s hreads haggregate
    have held : ∀ r ∈ rs, pool.store.holds r.item = true := by
      intro r hr
      have hpublished := MeteredRequest.published_eq hconfig (hbillable r hr) (hsends r hr)
      obtain ⟨x, hx, batch, hstart, record, hrecord, hbody⟩ :=
        deliveries.delivered r hr (.dumps r.event, r.identity.tenant) (by simp [hpublished])
      exact holds_of_finished run clean finished hx hstart hrecord hbody
    have hperm := ledger_perm run clean held hdistinct
    obtain ⟨hrequests, hunits⟩ :=
      consistent_of_faultless run deliveries.faultless finished tenant m
    rw [ledgerCount_of_perm hperm] at hrequests
    rw [ledgerUnits_of_perm hperm] at hunits
    have hfiled : FiledByMonth s.aggregate := haggregate ▸ filedByMonth_run run
    rw [run_getTenantUsage hconfig hreads hfiled, run_calculateInvoice hconfig hreads hfiled,
      haggregate]
    refine ⟨?_, _, rfl, hunits⟩
    exact congrArg Except.ok (congrArg₂ (UsageRow.mk m.key) hrequests hunits)

/-- A page view of an administrator, by a task of the service that made `tick` calls before. -/
def sampleRequest (tick : Nat) : MeteredRequest where
  identity := sampleAdmin
  method := "GET"
  path := "/billing"
  statusCode := 200
  world := quietWorld
  start := { emptyState with tick := tick }

theorem sampleRequest_billable (tick : Nat) : (sampleRequest tick).Billable where
  tenant := ⟨("TenantA_admin", ⟨"TenantA", "admin"⟩), by simp [cognitoGroupMap], rfl⟩
  user := .inl rfl
  method := show "GET" ≠ "" by decide
  path := show "/billing" ≠ "" by decide
  status := show (200 : Int) ≤ 200 ∧ (200 : Int) < 400 by decide

theorem sampleConfig_metering : sampleConfig.Metering where
  demoMode := rfl
  enabled := rfl
  queue := by decide
  table := by decide

/-- The first of two messages is delivered twice, to invocations that overlap. -/
def sampleSchedule : List (Pool.Move (List Record) Outcome) :=
  let first : Record := ⟨"m-1", .json (sampleRequest 0).event⟩
  let second : Record := ⟨"m-2", .json (sampleRequest 1).event⟩
  [.start [first, second], .start [first], .call 0 .success, .call 1 .success, .call 1 .success,
    .call 1 .success, .call 0 .success, .finish 0, .finish 0]

theorem sampleRequest_published (tick : Nat) : (sampleRequest tick).published sampleConfig =
    [(.dumps (sampleRequest tick).event, "TenantA")] :=
  MeteredRequest.published_eq sampleConfig_metering (sampleRequest_billable tick) fun _ _ _ => rfl

/-- Moves whose calls all succeed make a run without faults. -/
theorem faultless_of_play {repr : Json → String}
    {moves : List (Pool.Move (List Record) Outcome)} {trace : LambdaTrace} {pool : Lambda}
    (h : Pool.play execOp (handler repr) moves Lambda.init = some (trace, pool))
    (hmoves : ∀ place outcome, .call place outcome ∈ moves → outcome = .success) :
    ∀ x ∈ trace, Faultless x.2 := by
  intro x hx
  obtain ⟨m, hm, hmakes⟩ := Pool.exists_move_of_mem h hx
  cases m with
  | start tag =>
    rw [show x.2 = .start tag from hmakes]
    trivial
  | call place outcome =>
    obtain ⟨tag, op, heq⟩ := hmakes
    rw [heq]
    exact hmoves place outcome hm
  | finish place =>
    obtain ⟨tag, result, heq⟩ := hmakes
    rw [heq]
    trivial

theorem sampleSchedule_clean {trace : LambdaTrace} {pool : Lambda}
    (h : Pool.play execOp (handler fun _ => "") sampleSchedule Lambda.init = some (trace, pool)) :
    CleanDeliveries sampleConfig [sampleRequest 0, sampleRequest 1] trace where
  published := by
    intro x hx batch hstart record hrecord
    have hm := Pool.start_of_mem h hx hstart
    have hbody : record.body = .json (sampleRequest 0).event ∨
        record.body = .json (sampleRequest 1).event := by
      simp only [sampleSchedule, List.mem_cons, Pool.Move.start.injEq, reduceCtorEq,
        List.not_mem_nil, or_false] at hm
      rcases hm with rfl | rfl
      · simp only [List.mem_cons, List.not_mem_nil, or_false] at hrecord
        rcases hrecord with rfl | rfl
        · exact .inl rfl
        · exact .inr rfl
      · rw [List.mem_singleton.mp hrecord]
        exact .inl rfl
    rcases hbody with hbody | hbody
    · exact ⟨sampleRequest 0, by simp, (.dumps (sampleRequest 0).event, "TenantA"),
        by simp [sampleRequest_published], hbody⟩
    · exact ⟨sampleRequest 1, by simp, (.dumps (sampleRequest 1).event, "TenantA"),
        by simp [sampleRequest_published], hbody⟩
  delivered := by
    intro r hr message hmessage
    have hfirst : Pool.Move.start
        [⟨"m-1", .json (sampleRequest 0).event⟩, ⟨"m-2", .json (sampleRequest 1).event⟩] ∈
        sampleSchedule := by
      simp [sampleSchedule]
    obtain ⟨x, hx, hmakes⟩ := Pool.exists_step_of_mem h hfirst
    refine ⟨x, hx, _, hmakes, ?_⟩
    simp only [List.mem_cons, List.not_mem_nil, or_false] at hr
    rcases hr with rfl | rfl
    · rw [sampleRequest_published] at hmessage
      rw [List.mem_singleton.mp hmessage]
      exact ⟨_, List.mem_cons_self, rfl⟩
    · rw [sampleRequest_published] at hmessage
      rw [List.mem_singleton.mp hmessage]
      exact ⟨_, List.mem_cons_of_mem _ List.mem_cons_self, rfl⟩
  faultless := by
    refine faultless_of_play h fun place outcome hm => ?_
    simp only [sampleSchedule, List.mem_cons, Pool.Move.call.injEq, reduceCtorEq,
      List.not_mem_nil, or_false, false_or] at hm
    rcases hm with hm | hm | hm | hm | hm
    all_goals exact hm.2

/-- Two requests, three deliveries, an invoice of two units. -/
theorem metering_exact_twice : ∃ trace pool,
    Pool.play execOp (handler fun _ => "") sampleSchedule Lambda.init = some (trace, pool) ∧
    ∃ invoice, (quietWorld.run (calculateInvoice sampleConfig "TenantA" (some august.key))
      { emptyState with aggregate := pool.store.aggregate }).1 = .ok invoice ∧
      invoice.usageUnits = 2 := by
  have hsome : (Pool.play execOp (handler fun _ => "") sampleSchedule Lambda.init).isSome := by
    decide
  obtain ⟨⟨trace, pool⟩, hplay⟩ := Option.isSome_iff_exists.mp hsome
  have hfinished : pool.threads = [] := by
    have hlength : ((Pool.play execOp (handler fun _ => "") sampleSchedule Lambda.init).map
        fun result => result.2.threads.length) = some 0 := by decide
    rw [hplay] at hlength
    exact List.length_eq_zero_iff.mp (Option.some.inj hlength)
  have hbillable : ∀ r ∈ [sampleRequest 0, sampleRequest 1], r.Billable := by
    intro r hr
    simp only [List.mem_cons, List.not_mem_nil, or_false] at hr
    rcases hr with rfl | rfl
    · exact sampleRequest_billable 0
    · exact sampleRequest_billable 1
  have hsends : ∀ r ∈ [sampleRequest 0, sampleRequest 1], r.Sends := by
    intro r hr
    simp only [List.mem_cons, List.not_mem_nil, or_false] at hr
    rcases hr with rfl | rfl
    · exact fun _ _ _ => rfl
    · exact fun _ _ _ => rfl
  have hexact := metering_exact sampleConfig_metering hbillable hsends (by decide)
    (Pool.run_of_play hplay) (sampleSchedule_clean hplay) hfinished
  exact ⟨trace, pool, hplay, (hexact.2.2 "TenantA" august quietWorld _ (fun _ _ => rfl) rfl).2⟩

end TenantSaas
