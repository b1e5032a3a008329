import TenantSaas.LambdaBilling.EventTime
import TenantSaas.Metering.EndToEnd

/-!
# The two consumers

The events of the application go to two Lambdas: one files them in DynamoDB, the other in
`tenant_usage`.  Both keep one record of each event, and their records agree.
-/

namespace TenantSaas

/-- What both stores keep of an event. -/
structure UsageEntry where
  eventId : Json
  tenantId : Json
  userId : Json
  apiPath : Json
  httpMethod : Json
  statusCode : Json
  usageUnits : Json

def LedgerItem.entry (item : LedgerItem) : UsageEntry where
  eventId := item.eventId
  tenantId := item.tenantId
  userId := item.userId
  apiPath := item.apiPath
  httpMethod := item.httpMethod
  statusCode := item.statusCode
  usageUnits := .int item.usageUnits

def MeteredRequest.entry (r : MeteredRequest) : UsageEntry := r.item.entry

namespace LambdaBilling

def UsageRecord.entry (row : UsageRecord) : UsageEntry where
  eventId := row.eventId
  tenantId := row.tenantId
  userId := row.userId
  apiPath := row.apiPath
  httpMethod := row.httpMethod
  statusCode := row.statusCode
  usageUnits := row.usageUnits

/-- An empty `tenant_usage`. -/
def State.empty : State := ⟨[], [], false, 0⟩

/-- The database after some batches, each handled by an invocation of its own. -/
def delivered (w : World) (batches : List (List Record)) (s : State) : State :=
  batches.foldl (fun s batch => (w.run (lambdaHandler batch) s).2) s

/-- The database after some records. -/
def handled (w : World) (records : List Record) (s : State) : State :=
  records.foldl (fun s record => (w.run (handleRecord record) s).2) s

/-- Among the records is one of the event whose first insert commits. -/
def Commits (w : World) (records : List Record) (s : State) (event : Json) : Prop :=
  ∃ before record after, records = before ++ record :: after ∧ record.body = .dumps event ∧
    w.commits (handled w before s).tick = true

section Storage

variable {w : World} {rs : List MeteredRequest}

theorem lambdaHandler_eq_handled (batch : List Record) (s : State) :
    (w.run (lambdaHandler batch) s).2 = handled w batch s := by
  induction batch generalizing s with
  | nil => rfl
  | cons record batch ih =>
    rw [lambdaHandler_cons, ih]
    rfl

theorem delivered_eq_handled (batches : List (List Record)) (s : State) :
    delivered w batches s = handled w batches.flatten s := by
  induction batches generalizing s with
  | nil => rfl
  | cons batch batches ih =>
    have hstep : delivered w (batch :: batches) s =
        delivered w batches (w.run (lambdaHandler batch) s).2 := rfl
    rw [hstep, lambdaHandler_eq_handled, ih, List.flatten_cons]
    exact List.foldl_append.symm

/-- The insert of an event has what the ledger has of it. -/
theorem run_usageValues_event (r : MeteredRequest) (s : State) : ∃ v,
    w.run (usageValues r.event) s = (.ok v, s) ∧ v.eventId = .str r.eventId ∧
      v.entry = r.entry :=
  ⟨_, rfl, rfl, rfl⟩

/-- What one delivery of an event does to the table. -/
theorem handleRecord_event {record : Record} {r : MeteredRequest}
    (hbody : record.body = .dumps r.event) (s : State) : ∃ v : UsageRecord,
    v.eventId = .str r.eventId ∧ v.entry = r.entry ∧
      (w.run (handleRecord record) s).2.table =
        if w.commits s.tick = true then w.insert s.table v else s.table := by
  obtain ⟨v, hrun, hid, hentry⟩ := run_usageValues_event (w := w) r s.connected
  obtain ⟨values, hvalues, htable⟩ := handleRecord_table (w := w) (readData_published hbody) s
  obtain rfl : values = .ok v := congrArg Prod.fst (hvalues.symm.trans hrun)
  exact ⟨v, hid, hentry, htable⟩

/-- The rows are of the requests, and there is one for each event at most. -/
structure Rows (w : World) (rs : List MeteredRequest) (s : State) : Prop where
  unique : s.Unique w
  entries : ∀ row ∈ s.table, ∃ r ∈ rs, row.eventId = .str r.eventId ∧ row.entry = r.entry

theorem rows_empty : Rows w rs State.empty where
  unique := ⟨List.nodup_nil, List.nodup_nil⟩
  entries _ h := by cases h

theorem Rows.handleRecord {record : Record} {r : MeteredRequest} (hr : r ∈ rs)
    (hbody : record.body = .dumps r.event) {s : State} (h : Rows w rs s) :
    Rows w rs (w.run (handleRecord record) s).2 where
  unique := Prog.run_invariant w.exec (fun op _ _ h => exec_unique op h) (Prog.calls_true _)
    h.unique
  entries := by
    intro row hrow
    obtain ⟨v, hid, hentry, htable⟩ := handleRecord_event (w := w) hbody s
    rw [htable] at hrow
    split at hrow
    · unfold World.insert at hrow
      split at hrow
      · exact h.entries row hrow
      · rcases List.mem_append.mp hrow with hrow | hrow
        · exact h.entries row hrow
        · rw [List.mem_singleton.mp hrow]
          exact ⟨r, hr, hid, hentry⟩
    · exact h.entries row hrow

theorem Rows.handled {records : List Record}
    (hrecords : ∀ record ∈ records, ∃ r ∈ rs, record.body = .dumps r.event) {s : State}
    (h : Rows w rs s) : Rows w rs (handled w records s) := by
  induction records generalizing s with
  | nil => exact h
  | cons record records ih =>
    rw [List.forall_mem_cons] at hrecords
    obtain ⟨⟨r, hr, hbody⟩, hrest⟩ := hrecords
    exact ih hrest (h.handleRecord hr hbody)

theorem handled_keeps (records : List Record) {s : State} {row : UsageRecord}
    (h : row ∈ s.table) : row ∈ (LambdaBilling.handled w records s).table := by
  induction records generalizing s with
  | nil => exact h
  | cons record records ih => exact ih (handleRecord_keeps record h)

/-- An event one of whose inserts commits is in the table from then on. -/
theorem holds_of_commits {records : List Record} {s : State} {r : MeteredRequest}
    (h : Commits w records s r.event) :
    ∃ row ∈ (handled w records s).table,
      w.eventKey row.eventId = w.eventKey (.str r.eventId) := by
  obtain ⟨before, record, after, rfl, hbody, hcommits⟩ := h
  obtain ⟨v, hid, -, htable⟩ :=
    handleRecord_event (w := w) hbody (LambdaBilling.handled w before s)
  have hheld := holds_insert (w := w) (LambdaBilling.handled w before s).table v (.str r.eventId)
  rw [hid, beq_self_eq_true, Bool.or_true] at hheld
  rw [if_pos hcommits] at htable
  rw [← htable, World.holds, List.any_eq_true] at hheld
  obtain ⟨row, hrow, hkey⟩ := hheld
  refine ⟨row, ?_, beq_iff_eq.mp hkey⟩
  have hafter := handled_keeps (w := w) after hrow
  rw [LambdaBilling.handled, List.foldl_append]
  exact hafter

/-- A table that holds every request's event holds one row of each request and no other. -/
theorem table_perm {s : State} (h : Rows w rs s)
    (hkeys : (rs.map fun r => w.eventKey (.str r.eventId)).Nodup)
    (held : ∀ r ∈ rs, ∃ row ∈ s.table, w.eventKey row.eventId = w.eventKey (.str r.eventId)) :
    (s.table.map UsageRecord.entry).Perm (rs.map MeteredRequest.entry) := by
  have hrows : (s.table.map UsageRecord.entry).Nodup := by
    apply List.Nodup.of_map fun entry => w.eventKey entry.eventId
    rw [List.map_map]
    exact h.unique.table
  have hentries : (rs.map MeteredRequest.entry).Nodup := by
    apply List.Nodup.of_map fun entry => w.eventKey entry.eventId
    rw [List.map_map]
    exact hkeys
  rw [List.perm_ext_iff_of_nodup hrows hentries]
  intro entry
  constructor
  · intro hentry
    obtain ⟨row, hrow, rfl⟩ := List.mem_map.mp hentry
    obtain ⟨r, hr, -, heq⟩ := h.entries row hrow
    rw [heq]
    exact List.mem_map_of_mem hr
  · intro hentry
    obtain ⟨r, hr, rfl⟩ := List.mem_map.mp hentry
    obtain ⟨row, hrow, hkey⟩ := held r hr
    obtain ⟨r', hr', hid, heq⟩ := h.entries row hrow
    rw [hid] at hkey
    obtain rfl : r' = r := List.inj_on_of_nodup_map hkeys hr' hr hkey
    rw [← heq]
    exact List.mem_map_of_mem hrow

end Storage

end LambdaBilling

/-! ## Both consumers -/

/-- The ledger of the requests, once their messages are delivered and nothing has failed. -/
theorem ledger_of_deliveries {config : Config} {repr : Json → String} {rs : List MeteredRequest}
    {trace : LambdaTrace} {pool : Lambda} (hconfig : config.Metering)
    (hbillable : ∀ r ∈ rs, r.Billable) (hsends : ∀ r ∈ rs, r.Sends)
    (hdistinct : (rs.map MeteredRequest.eventId).Nodup) (run : Lambda.Run repr trace pool)
    (deliveries : CleanDeliveries config rs trace) (finished : pool.threads = []) :
    pool.store.ledger.Perm (rs.map MeteredRequest.item) := by
  have clean := clean_of_deliveries hconfig hbillable hsends deliveries
  refine ledger_perm run clean (fun r hr => ?_) hdistinct
  have hpublished := MeteredRequest.published_eq hconfig (hbillable r hr) (hsends r hr)
  obtain ⟨x, hx, batch, hstart, record, hrecord, hbody⟩ :=
    deliveries.delivered r hr (.dumps r.event, r.identity.tenant) (by simp [hpublished])
  exact holds_of_finished run clean finished hx hstart hrecord hbody

/-- The two stores of usage agree.  The events of any billable requests are delivered to both
Lambdas, each once or more, in any order and in any batches: to the metering handler with nothing
failing, to the billing Lambda with any faults of its database, but so that the insert of each
event commits at one of its deliveries.  Then the rows of `tenant_usage` are those of the ledger,
in all that both keep of an event. -/
theorem consumers_agree {config : Config} {repr : Json → String} {rs : List MeteredRequest}
    {trace : LambdaTrace} {pool : Lambda} (hconfig : config.Metering)
    (hbillable : ∀ r ∈ rs, r.Billable) (hsends : ∀ r ∈ rs, r.Sends)
    (run : Lambda.Run repr trace pool) (deliveries : CleanDeliveries config rs trace)
    (finished : pool.threads = []) (w : LambdaBilling.World)
    (hkeys : (rs.map fun r => w.eventKey (.str r.eventId)).Nodup) (batches : List (List Record))
    (hpublished : ∀ batch ∈ batches, ∀ record ∈ batch, ∃ r ∈ rs,
      ∃ message ∈ r.published config, record.body = message.1)
    (hcommits : ∀ r ∈ rs, LambdaBilling.Commits w batches.flatten .empty r.event) :
    ((LambdaBilling.delivered w batches .empty).table.map LambdaBilling.UsageRecord.entry).Perm
      (pool.store.ledger.map LedgerItem.entry) := by
  have hdistinct : (rs.map MeteredRequest.eventId).Nodup := by
    apply List.Nodup.of_map fun id => w.eventKey (.str id)
    rw [List.map_map]
    exact hkeys
  have hrecords : ∀ record ∈ batches.flatten, ∃ r ∈ rs, record.body = .dumps r.event := by
    intro record hrecord
    obtain ⟨batch, hbatch, hrecord⟩ := List.mem_flatten.mp hrecord
    obtain ⟨r, hr, message, hmessage, hbody⟩ := hpublished batch hbatch record hrecord
    rw [MeteredRequest.published_eq hconfig (hbillable r hr) (hsends r hr)] at hmessage
    rw [List.mem_singleton.mp hmessage] at hbody
    exact ⟨r, hr, hbody⟩
  have hrows := (LambdaBilling.rows_empty (w := w)).handled hrecords
  have htable := LambdaBilling.table_perm hrows hkeys fun r hr =>
    LambdaBilling.holds_of_commits (hcommits r hr)
  have hledger := (ledger_of_deliveries hconfig hbillable hsends hdistinct run deliveries
    finished).map LedgerItem.entry
  rw [LambdaBilling.delivered_eq_handled]
  rw [List.map_map] at hledger
  exact htable.trans hledger.symm

/-- A database that cannot be reached for the fourth statement. -/
def faultyWorld : LambdaBilling.World :=
  { LambdaBilling.quietWorld with
    outcome := fun n => if n = 3 then .before LambdaBilling.interfaceError else .success }

/-- The second message is delivered again, as its event was not stored. -/
def sampleBatches : List (List Record) :=
  let first : Record := ⟨"m-1", .json (sampleRequest 0).event⟩
  let second : Record := ⟨"m-2", .json (sampleRequest 1).event⟩
  [[first, second], [second]]

theorem consumers_agree_twice : ∃ trace pool,
    Pool.play execOp (handler fun _ => "") sampleSchedule Lambda.init = some (trace, pool) ∧
    ((LambdaBilling.delivered faultyWorld sampleBatches .empty).table.map
      LambdaBilling.UsageRecord.entry).Perm (pool.store.ledger.map LedgerItem.entry) := by
  have hsome : (Pool.play execOp (handler fun _ => "") sampleSchedule Lambda.init).isSome := by
    decide
  obtain ⟨⟨trace, pool⟩, hplay⟩ := Option.isSome_iff_exists.mp hsome
  have hfinished : pool.threads = [] := by
    have hlength : ((Pool.play execOp (handler fun _ => "") sampleSchedule Lambda.init).map
        fun result => result.2.threads.length) = some 0 := by decide
    rw [hplay] at hlength
    exact List.length_eq_zero_iff.mp (Option.some.inj hlength)
  refine ⟨trace, pool, hplay, consumers_agree sampleConfig_metering ?billable ?sends
    (Pool.run_of_play hplay) (sampleSchedule_clean hplay) hfinished faultyWorld (by decide)
    sampleBatches ?published ?commits⟩
  case billable =>
    simp only [List.forall_mem_cons, List.not_mem_nil, false_imp_iff, implies_true, and_true]
    exact ⟨sampleRequest_billable 0, sampleRequest_billable 1⟩
  case sends =>
    simp only [List.forall_mem_cons, List.not_mem_nil, false_imp_iff, implies_true, and_true]
    exact ⟨fun _ _ _ => rfl, fun _ _ _ => rfl⟩
  case published =>
    simp only [sampleBatches, List.forall_mem_cons, List.not_mem_nil, false_imp_iff, implies_true,
      and_true]
    have hfirst : ∃ r ∈ [sampleRequest 0, sampleRequest 1], ∃ message ∈ r.published sampleConfig,
        Body.json (sampleRequest 0).event = message.1 :=
      ⟨sampleRequest 0, by simp, _, by rw [sampleRequest_published]; exact List.mem_cons_self, rfl⟩
    have hsecond : ∃ r ∈ [sampleRequest 0, sampleRequest 1], ∃ message ∈ r.published sampleConfig,
        Body.json (sampleRequest 1).event = message.1 :=
      ⟨sampleRequest 1, by simp, _, by rw [sampleRequest_published]; exact List.mem_cons_self, rfl⟩
    exact ⟨⟨hfirst, hsecond⟩, hsecond⟩
  case commits =>
    simp only [List.forall_mem_cons, List.not_mem_nil, false_imp_iff, implies_true, and_true]
    exact ⟨⟨[], _, _, rfl, rfl, rfl⟩, ⟨[_, _], _, _, rfl, rfl, rfl⟩⟩

end TenantSaas
