import TenantSaas.LambdaBilling.Handler

/-!
# What the billing Lambda acknowledges

The insert is followed by a second one on the connection it has just closed, so every
record ends in an exception and is listed, stored or not.
-/

namespace TenantSaas

namespace LambdaBilling

variable {w : World}

/-! ## One insert -/

/-- Whether the statement took effect, whatever was reported. -/
def tookEffect : Outcome → Bool
  | .before _ => false
  | _ => true

def isSuccess : Outcome → Bool
  | .success => true
  | _ => false

namespace World

/-- The connection and the insert that begin at `tick` succeed, and their commit takes
effect. -/
def commits (w : World) (tick : Nat) : Bool :=
  isSuccess (w.outcome tick) && isSuccess (w.outcome (tick + 1)) &&
    tookEffect (w.outcome (tick + 2))

/-- The table after an insert of `values`, when there are any. -/
def inserted (w : World) (s : State) : Except PyError UsageRecord → List UsageRecord
  | .ok values => if w.commits s.tick then w.insert s.table values else s.table
  | .error _ => s.table

theorem attempt_eq (w : World) (s done : State) :
    w.attempt s done =
      (match w.outcome s.tick with
        | .success => .ok ()
        | .before e => .error e
        | .after e => .error e,
       { (if tookEffect (w.outcome s.tick) then done else s) with tick := s.tick + 1 }) := by
  unfold attempt
  cases w.outcome s.tick <;> rfl

end World

/-- Everything but a commit leaves the committed rows alone. -/
theorem exec_table {op : Op} (s : State) (h : op ≠ .commit) : (w.exec s op).2.table = s.table := by
  cases op with
  | commit => exact absurd rfl h
  | connect =>
    show (w.attempt _ _).2.table = _
    rw [World.attempt_eq]
    cases tookEffect (w.outcome s.tick) <;> rfl
  | execute values =>
    show (w.onConnection _ _).2.table = _
    unfold World.onConnection
    rw [World.attempt_eq]
    cases s.isOpen <;> cases tookEffect (w.outcome s.tick) <;> rfl
  | rollback =>
    show (w.onConnection _ _).2.table = _
    unfold World.onConnection
    rw [World.attempt_eq]
    cases s.isOpen <;> cases tookEffect (w.outcome s.tick) <;> rfl
  | closeCursor => rfl
  | close =>
    unfold World.exec
    cases s.isOpen <;> rfl
  | utcnow => rfl

theorem run_table {α : Type} {p : Code α} (hp : p.Calls (· ≠ .commit)) (s : State) :
    (w.run p s).2.table = s.table :=
  Prog.run_invariant w.exec (fun _ t hop ht => (exec_table t hop).trans ht) hp rfl

/-- Reading the values of the statement changes nothing; an object that names its event has
them. -/
theorem run_usageValues (data : Json) (s : State) : ∃ values,
    w.run (usageValues data) s = (values, s) ∧
    (∀ v, values = .ok v → data.getItem "event_id" = .ok v.eventId) ∧
    ∀ id, data.getItem "event_id" = .ok id → ∃ v, values = .ok v := by
  unfold usageValues
  cases hid : data.getItem "event_id" with
  | error e => exact ⟨.error e, rfl, by simp, by simp⟩
  | ok id =>
    cases data with
    | obj fields =>
      simp only [Json.dictGet, Prog.ofExcept, Prog.bind_def, Prog.ret_bind]
      split
      · exact ⟨_, rfl, by rintro v ⟨⟩; rfl, fun _ _ => ⟨_, rfl⟩⟩
      · exact ⟨_, rfl, by rintro v ⟨⟩; rfl, fun _ _ => ⟨_, rfl⟩⟩
    | _ => cases hid

/-- The first block either raises, or leaves its connection closed. -/
theorem run_insertAndClose (data : Json) {s : State} (hopen : s.isOpen = true)
    (hclean : s.working = s.table) : ∃ values result s',
    w.run (usageValues data) s = (values, s) ∧ w.run (insertAndClose data) s = (result, s') ∧
    ((∃ e, result = .error e) ∨ s'.isOpen = false) ∧
    s'.table =
      match values with
      | .ok v =>
        if isSuccess (w.outcome s.tick) && tookEffect (w.outcome (s.tick + 1)) then
          w.insert s.table v
        else s.table
      | .error _ => s.table := by
  obtain ⟨values, hvalues, -⟩ := run_usageValues (w := w) data s
  unfold insertAndClose
  simp only [Prog.bind_def, World.run, Prog.run_bind, hvalues]
  cases values with
  | error e => exact ⟨_, _, _, rfl, rfl, .inl ⟨e, rfl⟩, rfl⟩
  | ok v =>
    simp only [Prog.run_perform, World.exec, World.onConnection, World.attempt, hopen, if_true]
    cases w.outcome s.tick with
    | before e => exact ⟨_, _, _, rfl, rfl, .inl ⟨e, rfl⟩, rfl⟩
    | after e => exact ⟨_, _, _, rfl, rfl, .inl ⟨e, rfl⟩, rfl⟩
    | success =>
      simp only [if_true]
      cases w.outcome (s.tick + 1) with
      | before e => exact ⟨_, _, _, rfl, rfl, .inl ⟨e, rfl⟩, rfl⟩
      | after e => exact ⟨_, _, _, rfl, rfl, .inl ⟨e, rfl⟩, congrArg (w.insert · v) hclean⟩
      | success =>
        simp only [if_true]
        exact ⟨_, _, _, rfl, rfl, .inr rfl, congrArg (w.insert · v) hclean⟩

/-- The second block cannot even start on the closed connection. -/
theorem run_insertAgain (values : UsageRecord) {s : State} (hclosed : s.isOpen = false) :
    w.run (insertAgain values) s = (.error interfaceError, s) := by
  simp [insertAgain, World.run, Prog.run_handle, Prog.run_bind, World.exec, World.onConnection,
    hclosed]

/-- The `except` of the first block raises, whatever its own calls do, and commits nothing. -/
theorem run_abandon (e : PyError) (s : State) : ∃ e' s',
    w.run (abandon e) s = (.error e', s') ∧ s'.table = s.table := by
  have hcalls : (abandon e).Calls (· ≠ .commit) := by
    apply Prog.Calls.bind
    · simp
    · intro _
      exact Prog.Calls.bind (by simp) fun _ => trivial
  have htable := run_table (w := w) hcalls s
  have herror : ∀ v, (w.run (abandon e) s).1 ≠ .ok v := by
    intro v hv
    simp only [abandon, World.run, Prog.bind_def, Prog.run_bind, Prog.throw_def,
      Prog.run_raise] at hv
    repeat' split at hv
    all_goals cases hv
  rcases hrun : w.run (abandon e) s with ⟨_ | v, s'⟩
  · rw [hrun] at htable
    exact ⟨_, s', rfl, htable⟩
  · rw [hrun] at herror
    exact absurd rfl (herror v)

/-- `get_db_connection()` succeeded. -/
def State.connected (s : State) : State :=
  { s with working := s.table, isOpen := true, tick := s.tick + 1 }

/-- `insert_usage_record` raises on every path, and commits what its first block committed. -/
theorem run_insertUsageRecord (data : Json) (s : State) : ∃ values e s',
    w.run (insertUsageRecord data) s = (.error e, s') ∧ s'.table = w.inserted s values ∧
    ((∀ v, values = .ok v → data.getItem "event_id" = .ok v.eventId) ∧
      ∀ id, data.getItem "event_id" = .ok id → ∃ v, values = .ok v) ∧
    w.run (usageValues data) s.connected = (values, s.connected) := by
  let connected : State := { s with working := s.table, isOpen := true, tick := s.tick + 1 }
  obtain ⟨values, hvalues, hid⟩ := run_usageValues (w := w) data connected
  obtain ⟨values', result, s', hvalues', hblock, hresult, htable⟩ :=
    run_insertAndClose (w := w) data (s := connected) rfl rfl
  obtain rfl : values' = values := congrArg Prod.fst (hvalues'.symm.trans hvalues)
  unfold insertUsageRecord
  simp only [Prog.bind_def, World.run, Prog.run_bind, Prog.run_perform, World.exec, World.attempt]
  cases hconnect : w.outcome s.tick with
  | before e =>
    refine ⟨values', e, _, rfl, ?_, hid, hvalues⟩
    cases values' <;> simp [World.inserted, World.commits, hconnect, isSuccess]
  | after e =>
    refine ⟨values', e, _, rfl, ?_, hid, hvalues⟩
    cases values' <;> simp [World.inserted, World.commits, hconnect, isSuccess]
  | success =>
    have htable' : s'.table = w.inserted s values' := by
      rw [htable]
      cases values' <;> simp [World.inserted, World.commits, hconnect, isSuccess, connected]
    simp only [Prog.tryCatch_def, Prog.run_handle, World.run] at hblock ⊢
    rw [hblock]
    cases result with
    | error e =>
      obtain ⟨e', s'', hraise, hkept⟩ := run_abandon (w := w) e s'
      simp only [World.run] at hraise
      exact ⟨values', e', s'', by simp only [hraise], hkept.trans htable', hid, hvalues⟩
    | ok v =>
      have hclosed : s'.isOpen = false := by
        rcases hresult with ⟨e, he⟩ | hclosed
        · cases he
        · exact hclosed
      exact ⟨values', interfaceError, s', run_insertAgain v hclosed, htable', hid, hvalues⟩

/-! ## One delivery -/

/-- The message's event has a row in the table. -/
def World.Stored (w : World) (table : List UsageRecord) (record : Record) : Prop :=
  ∃ data id, record.body.loads = .ok data ∧ data.getItem "event_id" = .ok id ∧
    w.holds table id = true

/-- The message holds an event that passes the check of `lambda_handler`. -/
def WellFormed (record : Record) : Prop :=
  ∃ data id, readData record = .ok data ∧ data.getItem "event_id" = .ok id

theorem holds_insert (rows : List UsageRecord) (v : UsageRecord) (id : Json) :
    w.holds (w.insert rows v) id = (w.holds rows id || w.eventKey v.eventId == w.eventKey id) := by
  unfold World.insert
  by_cases hheld : w.holds rows v.eventId = true
  · rw [if_pos hheld]
    by_cases hkey : w.eventKey v.eventId = w.eventKey id
    · have hid : w.holds rows id = true := by simpa [World.holds, hkey] using hheld
      simp [hid]
    · simp [hkey]
  · rw [if_neg hheld]
    simp [World.holds, List.any_append]

theorem loads_of_readData {record : Record} {data : Json} (h : readData record = .ok data) :
    record.body.loads = .ok data := by
  obtain ⟨data', hloads, h⟩ := exceptBind_eq_ok.mp h
  obtain ⟨missing, -, h⟩ := exceptBind_eq_ok.mp h
  by_cases hnone : missing = []
  · rw [if_pos hnone] at h
    cases h
    exact hloads
  · rw [if_neg hnone] at h
    cases h

/-- What an insert leaves stored of the event it was for. -/
theorem holds_inserted {data id : Json} {s : State} {values : Except PyError UsageRecord}
    (hid : data.getItem "event_id" = .ok id)
    (hvalues : ∀ v, values = .ok v → data.getItem "event_id" = .ok v.eventId)
    (hexists : ∃ v, values = .ok v) :
    w.holds (w.inserted s values) id = (w.holds s.table id || w.commits s.tick) := by
  obtain ⟨v, rfl⟩ := hexists
  obtain rfl : v.eventId = id := Except.ok.inj ((hvalues v rfl).symm.trans hid)
  show w.holds (if w.commits s.tick then w.insert s.table v else s.table) v.eventId = _
  cases w.commits s.tick with
  | true =>
    rw [if_pos rfl, holds_insert]
    simp
  | false => simp

/-- Every record is listed.  Its event is stored afterwards when it was before, or when the
first insert of a well-formed event commits. -/
theorem run_handleRecord (record : Record) (s : State) : ∃ s',
    w.run (handleRecord record) s = (.ok [record.messageId], s') ∧
    (w.Stored s'.table record ↔
      w.Stored s.table record ∨ WellFormed record ∧ w.commits s.tick = true) := by
  unfold handleRecord
  simp only [Prog.tryCatch_def, Prog.bind_def, World.run, Prog.run_handle, Prog.run_bind,
    Prog.run_ofExcept]
  cases hread : readData record with
  | error e =>
    refine ⟨s, rfl, ?_⟩
    simp [WellFormed, hread]
  | ok data =>
    obtain ⟨values, e, s', hrun, htable, ⟨hid, hvalues⟩, -⟩ := run_insertUsageRecord (w := w) data s
    have hloads := loads_of_readData hread
    simp only [World.run] at hrun
    simp only [hrun]
    refine ⟨s', rfl, ?_⟩
    rw [htable]
    constructor
    · intro h
      obtain ⟨data', id, hdata, hget, hholds⟩ := h
      obtain rfl : data' = data := Except.ok.inj (hdata.symm.trans hloads)
      rw [holds_inserted hget hid (hvalues id hget), Bool.or_eq_true] at hholds
      rcases hholds with hbefore | hcommits
      · exact .inl ⟨data', id, hdata, hget, hbefore⟩
      · exact .inr ⟨⟨data', id, hread, hget⟩, hcommits⟩
    · intro h
      rcases h with ⟨data', id, hdata, hget, hholds⟩ | ⟨⟨data', id, hdata, hget⟩, hcommits⟩
      · obtain rfl : data' = data := Except.ok.inj (hdata.symm.trans hloads)
        refine ⟨data', id, hdata, hget, ?_⟩
        rw [holds_inserted hget hid (hvalues id hget), hholds, Bool.true_or]
      · obtain rfl : data = data' := Except.ok.inj (hread.symm.trans hdata)
        refine ⟨data, id, hloads, hget, ?_⟩
        rw [holds_inserted hget hid (hvalues id hget), hcommits, Bool.or_true]

/-! ## Runs of the queue -/

/-- One record in a batch: the state it met and left, and what its batch reported. -/
structure Visit where
  record : Record
  before : State
  after : State
  failed : List String

/-- The record is listed exactly when its event is not in the table after it. -/
def World.Exact (w : World) (visit : Visit) : Prop :=
  visit.record.messageId ∈ visit.failed ↔ ¬ w.Stored visit.after.table visit.record

/-- The event is not stored yet, and the delivery is not about to store it: it is not
well-formed, or the statements that begin now do not commit. -/
def World.StoresNothing (w : World) (visit : Visit) : Prop :=
  ¬ w.Stored visit.before.table visit.record ∧
    ¬ (WellFormed visit.record ∧ w.commits visit.before.tick = true)

/-- The records of a batch in the order of the loop. -/
def visits (w : World) (failed : List String) : List Record → State → List Visit
  | [], _ => []
  | record :: records, s =>
    let s' := (w.run (handleRecord record) s).2
    ⟨record, s, s', failed⟩ :: visits w failed records s'

/-- The queue in front of the table. -/
structure Delivery where
  visible : List Record
  db : State

/-- Runs of the queue from a table with one row per event: what a batch lists comes back,
the rest is gone. -/
inductive Run (w : World) : List Visit → Delivery → Prop where
  | init (table : List UsageRecord) (unique : (table.map (w.eventKey ·.eventId)).Nodup) :
      Run w [] ⟨[], table, table, false, 0⟩
  | send {trace : List Visit} {visible : List Record} {db : State} (record : Record)
      (run : Run w trace ⟨visible, db⟩) : Run w trace ⟨record :: visible, db⟩
  | deliver {trace : List Visit} {visible batch rest : List Record} {db db' : State}
      {failed : List String} (run : Run w trace ⟨visible, db⟩)
      (taken : visible.Perm (batch ++ rest))
      (handled : w.run (lambdaHandler batch) db = (.ok failed, db')) :
      Run w (trace ++ visits w failed batch db)
        ⟨batch.filter (fun record => record.messageId ∈ failed) ++ rest, db'⟩

theorem run_lambdaHandler (batch : List Record) (s : State) : ∃ s',
    w.run (lambdaHandler batch) s = (.ok (batch.map Record.messageId), s') := by
  induction batch generalizing s with
  | nil => exact ⟨s, rfl⟩
  | cons record batch ih =>
    obtain ⟨s', hrecord, -⟩ := run_handleRecord (w := w) record s
    obtain ⟨s'', hbatch⟩ := ih s'
    refine ⟨s'', ?_⟩
    simp only [World.run] at hrecord hbatch
    simp [World.run, lambdaHandler, Prog.run_bind, hrecord, hbatch]

theorem visits_record {failed : List String} {batch : List Record} {s : State} {visit : Visit}
    (h : visit ∈ visits w failed batch s) :
    visit.record ∈ batch ∧ visit.failed = failed ∧
      visit.after = (w.run (handleRecord visit.record) visit.before).2 := by
  induction batch generalizing s with
  | nil => cases h
  | cons record batch ih =>
    rcases List.mem_cons.mp h with rfl | h
    · exact ⟨List.mem_cons_self, rfl, rfl⟩
    · obtain ⟨hmem, hrest⟩ := ih h
      exact ⟨List.mem_cons_of_mem _ hmem, hrest⟩

/-- In a run every record has been listed, and handled by one pass of the loop. -/
theorem Run.visit {trace : List Visit} {q : Delivery} (run : Run w trace q) :
    ∀ visit ∈ trace, visit.record.messageId ∈ visit.failed ∧
      visit.after = (w.run (handleRecord visit.record) visit.before).2 := by
  induction run with
  | init => simp
  | send record run ih => exact ih
  | @deliver trace visible batch rest db db' failed run taken handled ih =>
    intro visit hvisit
    rcases List.mem_append.mp hvisit with hvisit | hvisit
    · exact ih visit hvisit
    · obtain ⟨hmem, hfailed, hafter⟩ := visits_record hvisit
      obtain ⟨s', hall⟩ := run_lambdaHandler (w := w) batch db
      have hlisted : failed = batch.map Record.messageId :=
        Except.ok.inj (congrArg Prod.fst (handled.symm.trans hall))
      rw [hfailed, hlisted]
      exact ⟨List.mem_map_of_mem hmem, hafter⟩

theorem exact_iff_storesNothing {trace : List Visit} {q : Delivery} (run : Run w trace q)
    {visit : Visit} (h : visit ∈ trace) : w.Exact visit ↔ w.StoresNothing visit := by
  obtain ⟨hlisted, hafter⟩ := run.visit visit h
  obtain ⟨s', hrun, hstored⟩ := run_handleRecord (w := w) visit.record visit.before
  rw [hrun] at hafter
  rw [World.Exact, World.StoresNothing, iff_true_left hlisted, hafter, hstored, not_or]

/-! ## One row per event -/

/-- The unique key on `event_id`. -/
def World.OncePerEvent (w : World) (rows : List UsageRecord) : Prop :=
  (rows.map (w.eventKey ·.eventId)).Nodup

theorem insert_oncePerEvent {rows : List UsageRecord} (values : UsageRecord)
    (h : w.OncePerEvent rows) : w.OncePerEvent (w.insert rows values) := by
  unfold World.insert
  by_cases hheld : w.holds rows values.eventId = true
  · rw [if_pos hheld]
    exact h
  · rw [if_neg hheld]
    have hfresh : w.eventKey values.eventId ∉ rows.map (w.eventKey ·.eventId) := by
      simpa [World.holds] using hheld
    show (List.map (w.eventKey ·.eventId) (rows ++ [values])).Nodup
    rw [List.map_append, List.map_singleton, List.nodup_append]
    refine ⟨h, List.nodup_singleton _, ?_⟩
    rintro key hkey _ (_ | _) rfl
    · exact hfresh hkey
    · contradiction

/-- Both what is committed and what the open transaction sees keep the unique key. -/
structure State.Unique (w : World) (s : State) : Prop where
  table : w.OncePerEvent s.table
  working : w.OncePerEvent s.working

theorem attempt_unique {s done : State} (h : s.Unique w) (hdone : done.Unique w) :
    (w.attempt s done).2.Unique w := by
  rw [World.attempt_eq]
  cases tookEffect (w.outcome s.tick) with
  | true => exact ⟨hdone.table, hdone.working⟩
  | false => exact ⟨h.table, h.working⟩

theorem onConnection_unique {s done : State} (h : s.Unique w) (hdone : done.Unique w) :
    (w.onConnection s done).2.Unique w := by
  unfold World.onConnection
  cases s.isOpen with
  | true => exact attempt_unique h hdone
  | false => exact h

theorem exec_unique (op : Op) {s : State} (h : s.Unique w) : (w.exec s op).2.Unique w := by
  cases op with
  | connect => exact attempt_unique h ⟨h.table, h.table⟩
  | execute values => exact onConnection_unique h ⟨h.table, insert_oncePerEvent values h.working⟩
  | commit => exact onConnection_unique h ⟨h.working, h.working⟩
  | rollback => exact onConnection_unique h ⟨h.table, h.table⟩
  | closeCursor => exact h
  | close =>
    unfold World.exec
    cases s.isOpen with
    | true => exact ⟨h.table, h.table⟩
    | false => exact h
  | utcnow => exact h

theorem Run.unique {trace : List Visit} {q : Delivery} (run : Run w trace q) : q.db.Unique w := by
  induction run with
  | init table unique => exact ⟨unique, unique⟩
  | send record run ih => exact ih
  | @deliver trace visible batch rest db db' failed run taken handled ih =>
    have hkept : (w.run (lambdaHandler batch) db).2.Unique w :=
      Prog.run_invariant w.exec (fun op _ _ h => exec_unique op h) (Prog.calls_true _) ih
    rw [handled] at hkept
    exact hkept

/-- A delivered batch comes back whole: no message ever leaves the queue. -/
theorem deliver_perm {visible batch rest : List Record} {db db' : State} {failed : List String}
    (taken : visible.Perm (batch ++ rest))
    (handled : w.run (lambdaHandler batch) db = (.ok failed, db')) :
    (batch.filter (fun record => record.messageId ∈ failed) ++ rest).Perm visible := by
  obtain ⟨s', hall⟩ := run_lambdaHandler (w := w) batch db
  obtain rfl : failed = batch.map Record.messageId :=
    Except.ok.inj (congrArg Prod.fst (handled.symm.trans hall))
  have hkept :
      batch.filter (fun record => record.messageId ∈ batch.map Record.messageId) = batch := by
    rw [List.filter_eq_self]
    intro record hrecord
    exact decide_eq_true (List.mem_map_of_mem hrecord)
  rw [hkept]
  exact taken.symm

/-- Over a run, the Lambda lists exactly the records it did not store, one row per event,
precisely when it never met a record whose event was stored or that it was about to store. -/
theorem acknowledges_iff_storesNothing {trace : List Visit} {q : Delivery}
    (run : Run w trace q) :
    (∀ visit ∈ trace, w.Exact visit) ∧ w.OncePerEvent q.db.table ↔
      ∀ visit ∈ trace, w.StoresNothing visit := by
  constructor
  · rintro ⟨hexact, -⟩ visit hvisit
    exact (exact_iff_storesNothing run hvisit).mp (hexact visit hvisit)
  · intro hnothing
    refine ⟨?_, run.unique.table⟩
    intro visit hvisit
    exact (exact_iff_storesNothing run hvisit).mpr (hnothing visit hvisit)

/-- No call fails. -/
def quietWorld : World where
  outcome _ := .success
  clock _ := sampleTime
  eventKey
    | .str id => id
    | _ => ""

def sampleRecord : Record := ⟨"m-1", .json (.obj [
  ("event_id", .str "e-1"), ("tenant_id", .str "TenantA"), ("user_id", .str "u-1"),
  ("action", .str "view"), ("api_path", .str "/home"), ("http_method", .str "GET"),
  ("status_code", .int 200), ("usage_units", .int 1)])⟩

/-- A valid event is stored without any failure, and its message comes back. -/
theorem exists_stored_run : ∃ trace q, Run quietWorld trace q ∧ q.visible = [sampleRecord] ∧
    q.db.table.length = 1 ∧ ¬ ∀ visit ∈ trace, quietWorld.StoresNothing visit := by
  have sent := (Run.init (w := quietWorld) [] List.nodup_nil).send sampleRecord
  have run := @Run.deliver _ _ _ [sampleRecord] [] _ _ _ sent (List.Perm.refl _) rfl
  refine ⟨_, _, run, rfl, rfl, ?_⟩
  intro hnothing
  refine (hnothing _ (List.mem_singleton_self _)).2 ⟨⟨_, .str "e-1", rfl, rfl⟩, rfl⟩

theorem stored_run_not_acknowledged : ∃ trace q, Run quietWorld trace q ∧
    ¬ ((∀ visit ∈ trace, quietWorld.Exact visit) ∧ quietWorld.OncePerEvent q.db.table) := by
  obtain ⟨trace, q, run, -, -, hstores⟩ := exists_stored_run
  refine ⟨trace, q, run, ?_⟩
  rw [acknowledges_iff_storesNothing run]
  exact hstores

/-- The event is in the table and its message in the failures. -/
theorem stored_event_listed : ¬ ∀ w trace q, Run w trace q →
    (∀ visit ∈ trace, w.Exact visit) ∧ w.OncePerEvent q.db.table := by
  intro h
  obtain ⟨trace, q, run, -, -, hstores⟩ := exists_stored_run
  apply hstores
  intro visit hvisit
  exact (exact_iff_storesNothing run hvisit).mp ((h quietWorld trace q run).1 visit hvisit)

end LambdaBilling

end TenantSaas
