import TenantSaas.LambdaBilling.Acknowledgement
import TenantSaas.Metering.Published

/-!
# When an event is said to have happened

The application sends the time in `timestamp`; the billing Lambda looks for `created_at`, and
takes the time of the delivery that stores the row.
-/

namespace TenantSaas

namespace LambdaBilling

open PyDateTime

variable {w : World}

/-- The month a stored `created_at` lies in. -/
def SqlValue.month : SqlValue → Option String
  | datetime t => some (strftimeMonth t)
  | json _ => none

/-- `tenant_usage` and the usage ledger file the event under one month. -/
def SameMonth (row : UsageRecord) (event : Json) : Prop :=
  ∃ timestamp month, event.getItem "timestamp" = .ok timestamp ∧
    billingMonth timestamp = .ok month ∧ row.createdAt.month = some month

/-- The row is dated by the time of the event, and filed with it. -/
structure Dated (row : UsageRecord) (event : Json) : Prop where
  instant : ∃ timestamp t, event.getItem "timestamp" = .ok timestamp ∧
    parseTimestamp timestamp = .ok t ∧ row.createdAt = .datetime t
  month : SameMonth row event

/-- The visit finds no row of the event and commits one. -/
def World.Stores (w : World) (visit : Visit) (id : Json) : Prop :=
  w.holds visit.before.table id = false ∧ w.commits visit.before.tick = true

/-- What the clock says while the values of a visit's insert are put together. -/
def World.storingTime (w : World) (visit : Visit) : DateTime := w.clock (visit.before.tick + 1)

/-! ## What one delivery stores -/

theorem handleRecord_table {record : Record} {data : Json} (h : readData record = .ok data)
    (s : State) : ∃ values, w.run (usageValues data) s.connected = (values, s.connected) ∧
      (w.run (handleRecord record) s).2.table = w.inserted s values := by
  obtain ⟨values, e, s', hrun, htable, -, hvalues⟩ := run_insertUsageRecord (w := w) data s
  refine ⟨values, hvalues, ?_⟩
  unfold handleRecord
  simp only [World.run] at hrun
  simp only [Prog.tryCatch_def, Prog.bind_def, World.run, Prog.run_handle, Prog.run_bind,
    Prog.run_ofExcept, h, hrun]
  exact htable

theorem mem_insert {rows : List UsageRecord} {row : UsageRecord} (values : UsageRecord)
    (h : row ∈ rows) : row ∈ w.insert rows values := by
  unfold World.insert
  split
  · exact h
  · exact List.mem_append_left _ h

/-- No delivery takes a row away. -/
theorem handleRecord_keeps (record : Record) {s : State} {row : UsageRecord} (h : row ∈ s.table) :
    row ∈ (w.run (handleRecord record) s).2.table := by
  cases hread : readData record with
  | error e =>
    unfold handleRecord
    simp only [Prog.tryCatch_def, Prog.bind_def, World.run, Prog.run_handle, Prog.run_bind,
      Prog.run_ofExcept, hread]
    exact h
  | ok data =>
    obtain ⟨values, -, htable⟩ := handleRecord_table (w := w) hread s
    rw [htable]
    cases values with
    | error e => exact h
    | ok v =>
      show row ∈ if w.commits s.tick then w.insert s.table v else s.table
      split
      · exact mem_insert v h
      · exact h

theorem lambdaHandler_cons (record : Record) (batch : List Record) (s : State) :
    (w.run (lambdaHandler (record :: batch)) s).2 =
      (w.run (lambdaHandler batch) (w.run (handleRecord record) s).2).2 := by
  obtain ⟨s', hrecord, -⟩ := run_handleRecord (w := w) record s
  obtain ⟨s'', hbatch⟩ := run_lambdaHandler (w := w) batch s'
  simp only [World.run] at hrecord hbatch
  simp [World.run, lambdaHandler, Prog.run_bind, hrecord, hbatch]

theorem lambdaHandler_keeps (batch : List Record) {s : State} {row : UsageRecord}
    (h : row ∈ s.table) : row ∈ (w.run (lambdaHandler batch) s).2.table := by
  induction batch generalizing s with
  | nil => exact h
  | cons record batch ih =>
    rw [lambdaHandler_cons]
    exact ih (handleRecord_keeps record h)

/-- What a visit of a batch left is there when the batch is done. -/
theorem visit_kept {failed : List String} {batch : List Record} {s : State} {visit : Visit}
    (h : visit ∈ visits w failed batch s) {row : UsageRecord} (hrow : row ∈ visit.after.table) :
    row ∈ (w.run (lambdaHandler batch) s).2.table := by
  induction batch generalizing s with
  | nil => cases h
  | cons record batch ih =>
    rw [lambdaHandler_cons]
    rcases List.mem_cons.mp h with rfl | h
    · exact lambdaHandler_keeps batch hrow
    · exact ih h

theorem Run.kept {trace : List Visit} {q : Delivery} (run : Run w trace q) {visit : Visit}
    (h : visit ∈ trace) {row : UsageRecord} (hrow : row ∈ visit.after.table) :
    row ∈ q.db.table := by
  induction run with
  | init => cases h
  | send record run ih => exact ih h
  | @deliver trace visible batch rest db db' failed run taken handled ih =>
    have hdb : (w.run (lambdaHandler batch) db).2 = db' := by rw [handled]
    rw [← hdb]
    rcases List.mem_append.mp h with h | h
    · exact lambdaHandler_keeps batch (ih h)
    · exact visit_kept h hrow

/-! ## The published event -/

section Event

variable {identity : Identity} {method path : String} {statusCode usageUnits : Int}
  {eventId : String} {now : DateTime}

/-- The published event has every field the Lambda asks for. -/
theorem readData_published {record : Record}
    (h : record.body = .dumps (buildUsageEvent identity method path statusCode usageUnits eventId
      now)) :
    readData record = .ok (buildUsageEvent identity method path statusCode usageUnits eventId
      now) := by
  unfold readData
  rw [h, Body.loads_dumps]
  rfl

/-- It has no `created_at`, so the clock is read. -/
theorem run_usageValues_published (s : State) : ∃ v,
    w.run (usageValues (buildUsageEvent identity method path statusCode usageUnits eventId now)) s =
      (.ok v, s) ∧ v.eventId = .str eventId ∧ v.createdAt = .datetime (w.clock s.tick) :=
  ⟨_, rfl, rfl, rfl⟩

/-- The row of an event keeps the time of the visit that stored it. -/
theorem createdAt_of_stores {trace : List Visit} {q : Delivery} (run : Run w trace q)
    {visit : Visit} (h : visit ∈ trace)
    (published : visit.record.body =
      .dumps (buildUsageEvent identity method path statusCode usageUnits eventId now))
    (stores : w.Stores visit (.str eventId)) {row : UsageRecord} (hrow : row ∈ q.db.table)
    (hkey : w.eventKey row.eventId = w.eventKey (.str eventId)) :
    row.createdAt = .datetime (w.storingTime visit) := by
  obtain ⟨v, hvalues, hid, hcreated⟩ :=
    @run_usageValues_published w identity method path statusCode usageUnits eventId now
      visit.before.connected
  obtain ⟨values, hread, htable⟩ :=
    handleRecord_table (w := w) (readData_published published) visit.before
  obtain rfl : values = .ok v := congrArg Prod.fst (hread.symm.trans hvalues)
  have hstored : v ∈ visit.after.table := by
    rw [(run.visit visit h).2, htable]
    simp only [World.inserted, stores.2, if_true, World.insert, hid, stores.1, Bool.false_eq_true,
      if_false]
    exact List.mem_append_right _ (List.mem_singleton_self v)
  have hsame : row = v := by
    refine List.inj_on_of_nodup_map run.unique.table hrow (run.kept h hstored) ?_
    rw [hkey, hid]
  rw [hsame, hcreated]
  rfl

theorem sameMonth_iff (utc : now.utcoffset = some 0) {row : UsageRecord} {t : DateTime}
    (h : row.createdAt = .datetime t) :
    SameMonth row (buildUsageEvent identity method path statusCode usageUnits eventId now) ↔
      strftimeMonth t = strftimeMonth now := by
  have hmonth : billingMonth (.str (eventTimestamp now)) = .ok (strftimeMonth now) := by
    rw [billingMonth, parseTimestamp_eventTimestamp utc]
    rfl
  constructor
  · intro h'
    obtain ⟨timestamp, month, ⟨⟩, hevent, hrow⟩ := h'
    rw [hmonth] at hevent
    rw [h] at hrow
    exact (Option.some.inj hrow).trans (Except.ok.inj hevent).symm
  · intro hsame
    refine ⟨_, _, rfl, hmonth, ?_⟩
    rw [h, SqlValue.month, hsame]

theorem dated_iff (utc : now.utcoffset = some 0) {row : UsageRecord} {t : DateTime}
    (h : row.createdAt = .datetime t) :
    Dated row (buildUsageEvent identity method path statusCode usageUnits eventId now) ↔
      t = now.truncate := by
  have hparse := parseTimestamp_eventTimestamp utc
  constructor
  · intro h'
    obtain ⟨⟨timestamp, t', ⟨⟩, hevent, hrow⟩, -⟩ := h'
    rw [hparse] at hevent
    cases hevent
    rw [h] at hrow
    cases hrow
    rfl
  · intro heq
    subst heq
    refine ⟨⟨_, _, rfl, hparse, h⟩, (sameMonth_iff utc h).mpr ?_⟩
    exact DateTime.strftimeMonth_truncate now

end Event

/-- In every run, the row of a published event is dated by the event exactly when the delivery
that stored it read the clock at that very time; it is filed with the event exactly when it read
it in that month. -/
theorem dated_iff_undelayed (w : World) (identity : Identity) (method path : String)
    (statusCode usageUnits : Int) (eventId : String) (now : DateTime)
    (utc : now.utcoffset = some 0) (trace : List Visit) (q : Delivery) (run : Run w trace q)
    (visit : Visit) (visited : visit ∈ trace)
    (published : visit.record.body =
      .dumps (buildUsageEvent identity method path statusCode usageUnits eventId now))
    (stores : w.Stores visit (.str eventId)) (row : UsageRecord) (stored : row ∈ q.db.table)
    (key : w.eventKey row.eventId = w.eventKey (.str eventId)) :
    (Dated row (buildUsageEvent identity method path statusCode usageUnits eventId now) ↔
        w.storingTime visit = now.truncate) ∧
      (SameMonth row (buildUsageEvent identity method path statusCode usageUnits eventId now) ↔
        strftimeMonth (w.storingTime visit) = strftimeMonth now) := by
  have hcreated := createdAt_of_stores run visited published stores stored key
  exact ⟨dated_iff utc hcreated, sameMonth_iff utc hcreated⟩

/-! ## An event of the last minute of July -/

/-- The event of a request served at `now`. -/
def homeEvent (now : DateTime) : Json := buildUsageEvent sampleAdmin "GET" "/home" 200 1 "e-1" now

/-- Delivered once, at noon of 1 August. -/
theorem exists_august_run (now : DateTime) : ∃ trace q visit row, Run quietWorld trace q ∧
    visit ∈ trace ∧ visit.record.body = .dumps (homeEvent now) ∧
    quietWorld.Stores visit (.str "e-1") ∧ row ∈ q.db.table ∧
    quietWorld.eventKey row.eventId = quietWorld.eventKey (.str "e-1") ∧
    quietWorld.storingTime visit = sampleTime := by
  have sent := (Run.init (w := quietWorld) [] List.nodup_nil).send ⟨"m-1", .dumps (homeEvent now)⟩
  have run := @Run.deliver _ _ _ [⟨"m-1", .dumps (homeEvent now)⟩] [] _ _ _ sent
    (List.Perm.refl _) rfl
  exact ⟨_, _, _, _, run, List.mem_singleton_self _, rfl, ⟨rfl, rfl⟩,
    List.mem_singleton_self _, rfl,
    rfl⟩

/-- One minute to midnight of 31 July. -/
def endOfJuly : DateTime := { sampleTime with
  month := 7
  day := 31
  hour := 23
  minute := 59
  month_range := by decide
  day_range := by decide
  time_range := by decide }

theorem august_event_dated : ∃ row, Dated row (homeEvent sampleTime) := by
  obtain ⟨trace, q, visit, row, run, visited, published, stores, stored, key, htime⟩ :=
    exists_august_run sampleTime
  exact ⟨row, (dated_iff_undelayed quietWorld sampleAdmin "GET" "/home" 200 1 "e-1" sampleTime rfl
    trace q run visit visited published stores row stored key).1.mpr htime⟩

/-- The event of July is filed under August. -/
theorem july_event_misdated : ¬ ∀ (w : World) (identity : Identity) (method path : String)
    (statusCode usageUnits : Int) (eventId : String) (now : DateTime), now.utcoffset = some 0 →
    ∀ trace q, Run w trace q → ∀ visit ∈ trace,
      visit.record.body =
        .dumps (buildUsageEvent identity method path statusCode usageUnits eventId now) →
      w.Stores visit (.str eventId) → ∀ row ∈ q.db.table,
        w.eventKey row.eventId = w.eventKey (.str eventId) →
        Dated row (buildUsageEvent identity method path statusCode usageUnits eventId now) := by
  intro h
  obtain ⟨trace, q, visit, row, run, visited, published, stores, stored, key, htime⟩ :=
    exists_august_run endOfJuly
  have hdated := h quietWorld sampleAdmin "GET" "/home" 200 1 "e-1" endOfJuly rfl trace q run visit
    visited published stores row stored key
  have hsame := (sameMonth_iff rfl (createdAt_of_stores run visited published stores stored
    key)).mp hdated.month
  rw [htime] at hsame
  exact absurd hsame (by decide)

end LambdaBilling

end TenantSaas
