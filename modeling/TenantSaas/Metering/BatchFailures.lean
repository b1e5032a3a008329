import TenantSaas.Metering.Redelivery

/-!
# What a batch reports

One invocation of the handler, against tables whose calls may fail in any pattern.  A message
it does not list is in the ledger; one without a valid body is listed, and that is all that
becomes of it.
-/

namespace TenantSaas

/-- How the calls of an invocation end, one after the other.  A failed condition is reported by
a put that checked it, so never by a call that did not take place. -/
structure Faults where
  outcome : Nat → Outcome
  checked : ∀ n, outcome n ≠ .before conditionalCheckFailed

/-- The tables behind a count of the calls. -/
def Faults.exec (faults : Faults) (s : Nat × Tables) (op : DynamoOp) :
    Except PyError Unit × (Nat × Tables) :=
  ((execOp (faults.outcome s.1) s.2 op).1, s.1 + 1, (execOp (faults.outcome s.1) s.2 op).2)

/-- The ledger has the row of the record's tenant, month and event id, as its keys spell
them. -/
def Record.Ledgered (repr : Json → String) (tables : Tables) (record : Record) : Prop :=
  ∃ event tenant timestamp month eventId, record.body.loads = .ok event ∧
    event.getItem "tenant_id" = .ok (.str tenant) ∧
    event.getItem "timestamp" = .ok timestamp ∧ billingMonth timestamp = .ok month ∧
    event.getItem "event_id" = .ok eventId ∧
    ∃ row ∈ tables.ledger, row.pk = "TENANT#" ++ tenant ∧
      row.sk = "USAGE#" ++ month ++ "#" ++ eventId.format repr

instance : DecidablePred Record.Valid := fun record =>
  decidable_of_iff ((record.body.loads.bind validate).isOk = true) (by
    rw [isOk_eq_true]
    cases hbody : record.body.loads with
    | error e => simp [Record.Valid, hbody, Except.bind]
    | ok event =>
      constructor
      · rintro ⟨a, ha⟩
        exact ⟨event, hbody, ha⟩
      · rintro ⟨event', hevent', hvalid⟩
        rw [hbody] at hevent'
        cases hevent'
        exact ⟨(), hvalid⟩)

section Ledger

variable {faults : Faults} {repr : Json → String} {record : Record}

/-- No row goes. -/
def Tables.Grows (tables tables' : Tables) : Prop := tables.ledger ⊆ tables'.ledger

theorem applyOp_grows (tables : Tables) (op : DynamoOp) : tables.Grows (applyOp tables op).2 := by
  cases op with
  | putItem item =>
    simp only [applyOp]
    split
    · exact List.Subset.refl _
    · exact List.subset_append_left _ _
  | updateItem update => exact List.Subset.refl _

theorem exec_grows (s : Nat × Tables) (op : DynamoOp) : s.2.Grows (faults.exec s op).2.2 := by
  unfold Faults.exec
  cases faults.outcome s.1 with
  | success => exact applyOp_grows s.2 op
  | before error => exact List.Subset.refl _
  | after error => exact applyOp_grows s.2 op

theorem run_grows {α : Type} {p : Metering α} {s t : Nat × Tables} {r : Except PyError α}
    (h : Prog.run faults.exec p s = (r, t)) : s.2.Grows t.2 := by
  have hgrows : s.2.Grows (Prog.run faults.exec p s).2.2 := by
    refine Prog.run_invariant faults.exec (I := fun t => s.2.Grows t.2) ?_ p.calls_true
      (List.Subset.refl _)
    intro op t _ ht
    exact List.Subset.trans ht (exec_grows t op)
  rwa [h] at hgrows

theorem Record.Ledgered.mono {tables tables' : Tables} (h : record.Ledgered repr tables)
    (grows : tables.Grows tables') : record.Ledgered repr tables' := by
  obtain ⟨event, tenant, timestamp, month, eventId, hbody, htenant, htime, hmonth, hevent,
    row, hrow, hkey⟩ := h
  exact ⟨event, tenant, timestamp, month, eventId, hbody, htenant, htime, hmonth, hevent,
    row, grows hrow, hkey⟩

theorem holds_iff {tables : Tables} {item : LedgerItem} :
    tables.holds item = true ↔ ∃ row ∈ tables.ledger, row.pk = item.pk ∧ row.sk = item.sk := by
  simp [Tables.holds]

theorem holds_applyOp (tables : Tables) (item : LedgerItem) :
    (applyOp tables (.putItem item)).2.holds item = true := by
  simp only [applyOp]
  by_cases hfresh : tables.holds item = true
  · rw [if_pos hfresh]
    exact hfresh
  · rw [if_neg hfresh]
    exact holds_iff.mpr ⟨item, by simp, rfl, rfl⟩

/-- A put that is reported as done, or as a duplicate, leaves its row. -/
theorem exec_putItem (s : Nat × Tables) (item : LedgerItem) :
    (faults.exec s (.putItem item)).2.2.holds item = true ∨
      ∃ e, (faults.exec s (.putItem item)).1 = .error e ∧ e ≠ conditionalCheckFailed := by
  unfold Faults.exec
  cases houtcome : faults.outcome s.1 with
  | success => exact .inl (holds_applyOp s.2 item)
  | before error =>
    refine .inr ⟨error, rfl, ?_⟩
    intro heq
    subst heq
    exact faults.checked s.1 houtcome
  | after error => exact .inl (holds_applyOp s.2 item)

theorem Tables.Grows.holds {tables tables' : Tables} {item : LedgerItem}
    (grows : tables.Grows tables') (h : tables.holds item = true) :
    tables'.holds item = true := by
  obtain ⟨row, hrow, hkey⟩ := holds_iff.mp h
  exact holds_iff.mpr ⟨row, grows hrow, hkey⟩

/-- An event that is processed without an error has its row. -/
theorem run_recordUsage {s t : Nat × Tables} {item : LedgerItem} {update : AggregateUpdate}
    (h : Prog.run faults.exec (recordUsage item update) s = (.ok (), t)) :
    t.2.holds item = true := by
  have hcall : recordUsage item update = .call (.putItem item) _ := rfl
  rw [hcall, Prog.run_call] at h
  rcases @exec_putItem faults s item with hrow | ⟨e, herror, hne⟩
  · exact (run_grows h).holds hrow
  · rw [herror] at h
    simp [Prog.bind, Prog.handle, hne] at h

/-- The row of an accepted event has the keys of its record. -/
theorem ledgered_of_holds {event : Json} {item : LedgerItem} {update : AggregateUpdate}
    {tables : Tables} (hbody : record.body.loads = .ok event) (hvalid : validate event = .ok ())
    (hwrites : usageWrites repr event = .ok (item, update)) (hrow : tables.holds item = true) :
    record.Ledgered repr tables := by
  obtain ⟨-, ⟨tenant, htenant, -⟩, -, -, -⟩ := validate_eq_ok.mp hvalid
  unfold usageWrites at hwrites
  simp only [exceptBind_eq_ok] at hwrites
  obtain ⟨tenantId, htenant', eventId, hevent, timestamp, htime, month, hmonth, units, -, n, -,
    userId, -, apiPath, -, httpMethod, -, statusCode, -, hw⟩ := hwrites
  obtain ⟨rfl, rfl⟩ := Prod.mk.inj (Except.ok.inj hw)
  obtain rfl := Except.ok.inj (htenant'.symm.trans htenant)
  obtain ⟨row, hmem, hpk, hsk⟩ := holds_iff.mp hrow
  exact ⟨event, tenant, timestamp, month, eventId, hbody, htenant, htime, hmonth, hevent, row, hmem,
    hpk, hsk⟩

theorem run_processEvent {s t : Nat × Tables} {event : Json}
    (hbody : record.body.loads = .ok event)
    (h : Prog.run faults.exec (processEvent repr event) s = (.ok (), t)) :
    record.Ledgered repr t.2 := by
  obtain ⟨_, u, hfirst, h⟩ := (Prog.run_bind_eq_ok faults.exec).mp h
  rw [Prog.run_ofExcept] at hfirst
  obtain ⟨hvalid, rfl⟩ := Prod.mk.inj hfirst
  obtain ⟨⟨item, update⟩, u, hsecond, h⟩ := (Prog.run_bind_eq_ok faults.exec).mp h
  rw [Prog.run_ofExcept] at hsecond
  obtain ⟨hwrites, rfl⟩ := Prod.mk.inj hsecond
  exact ledgered_of_holds hbody hvalid hwrites (run_recordUsage h)

/-- A record without a valid body makes no call. -/
theorem handleRecord_of_not_valid (h : ¬ record.Valid) :
    handleRecord repr record = .ret [record.messageId] := by
  unfold handleRecord
  cases hbody : record.body.loads with
  | error e => rfl
  | ok event =>
    cases hvalid : validate event with
    | error e =>
      have hprocess : processEvent repr event = .raise e := by
        unfold processEvent
        rw [hvalid]
        rfl
      simp only [Prog.ofExcept, Prog.bind_def, Prog.ret_bind, hprocess]
      rfl
    | ok u => exact absurd ⟨event, hbody, hvalid⟩ h

/-- A record is listed, or in the ledger. -/
theorem run_handleRecord (repr : Json → String) (faults : Faults) (record : Record)
    (s : Nat × Tables) : ∃ failed t,
    Prog.run faults.exec (handleRecord repr record) s = (.ok failed, t) ∧
      (failed = [record.messageId] ∨ failed = [] ∧ record.Ledgered repr t.2) := by
  unfold handleRecord
  rw [Prog.tryCatch_def, Prog.run_handle]
  cases hbody : record.body.loads with
  | error e => exact ⟨_, _, rfl, .inl rfl⟩
  | ok event =>
    rcases hrun : Prog.run faults.exec (processEvent repr event) s with ⟨e | u, t⟩
    · simp only [Prog.bind_def, Prog.run_bind, Prog.run_ofExcept, hrun]
      exact ⟨_, t, rfl, .inl rfl⟩
    · simp only [Prog.bind_def, Prog.run_bind, Prog.run_ofExcept, hrun]
      exact ⟨_, t, rfl, .inr ⟨rfl, run_processEvent hbody hrun⟩⟩

end Ledger

/-- What an invocation reports of a batch, and what it leaves in the tables. -/
structure Reports (repr : Json → String) (faults : Faults) (records : List Record)
    (s t : Nat × Tables) (failed : List String) : Prop where
  acknowledged : ∀ record ∈ records, record.messageId ∉ failed → record.Ledgered repr t.2
  /-- A record without a valid body is listed, and its pass of the loop changes nothing. -/
  rejected : ∀ record ∈ records, ¬ record.Valid → record.messageId ∈ failed ∧
    ∀ u, Prog.run faults.exec (handleRecord repr record) u = (.ok [record.messageId], u)
  /-- Without the records that are rejected the tables end the same, and the rest is reported
  the same. -/
  independent : ∃ others,
    Prog.run faults.exec (handler repr (records.filter fun record => record.Valid)) s =
        (.ok others, t) ∧
      failed.Perm ((records.filter fun record => ¬ record.Valid).map Record.messageId ++ others)

/-- One pass of the loop before the rest of the batch. -/
theorem Reports.cons {repr : Json → String} {faults : Faults} {record : Record}
    {records : List Record} {s u t : Nat × Tables} {first rest : List String}
    (hfirst : Prog.run faults.exec (handleRecord repr record) s = (.ok first, u))
    (hrecord : first = [record.messageId] ∨ first = [] ∧ record.Ledgered repr u.2)
    (hgrows : u.2.Grows t.2) (h : Reports repr faults records u t rest) :
    Reports repr faults (record :: records) s t (first ++ rest) := by
  obtain ⟨others, hothers, hperm⟩ := h.independent
  refine ⟨?_, ?_, ?_⟩
  · intro r hr hlisted
    rw [List.mem_append, not_or] at hlisted
    rcases List.mem_cons.mp hr with rfl | hr
    · rcases hrecord with rfl | ⟨-, hledgered⟩
      · exact absurd (List.mem_singleton_self _) hlisted.1
      · exact hledgered.mono hgrows
    · exact h.acknowledged r hr hlisted.2
  · intro r hr hvalid
    rcases List.mem_cons.mp hr with rfl | hr
    · have hpass : ∀ u, Prog.run faults.exec (handleRecord repr r) u =
          (.ok [r.messageId], u) := by
        intro u
        rw [handleRecord_of_not_valid hvalid, Prog.run_ret]
      rw [hpass] at hfirst
      cases hfirst
      exact ⟨List.mem_append_left _ (List.mem_singleton_self _), hpass⟩
    · obtain ⟨hmem, hpass⟩ := h.rejected r hr hvalid
      exact ⟨List.mem_append_right _ hmem, hpass⟩
  · by_cases hvalid : record.Valid
    · rw [List.filter_cons_of_pos (by simpa using hvalid),
        List.filter_cons_of_neg (by simpa using hvalid)]
      refine ⟨first ++ others, ?_, ?_⟩
      · simp only [handler, Prog.bind_def, Prog.run_bind, hfirst, hothers]
        rfl
      · exact (hperm.append_left first).trans (List.perm_append_comm_assoc _ _ _)
    · rw [List.filter_cons_of_neg (by simpa using hvalid),
        List.filter_cons_of_pos (by simpa using hvalid)]
      rw [handleRecord_of_not_valid hvalid, Prog.run_ret] at hfirst
      cases hfirst
      exact ⟨others, hothers, hperm.cons _⟩

/-- Whatever the bodies and the faults, the handler returns a report that is true of every
record. -/
theorem handler_reports (repr : Json → String) (faults : Faults) (records : List Record)
    (s : Nat × Tables) : ∃ failed t,
    Prog.run faults.exec (handler repr records) s = (.ok failed, t) ∧
      Reports repr faults records s t failed := by
  induction records generalizing s with
  | nil => exact ⟨[], s, rfl, by simp, by simp, [], rfl, by simp⟩
  | cons record records ih =>
    obtain ⟨first, u, hfirst, hrecord⟩ := run_handleRecord repr faults record s
    obtain ⟨rest, t, hrest, hreports⟩ := ih u
    refine ⟨first ++ rest, t, ?_, hreports.cons hfirst hrecord (run_grows hrest)⟩
    simp only [handler, Prog.bind_def, Prog.run_bind, hfirst, hrest]
    rfl

/-- An event, the same event again, and a list for a body; the increment is throttled. -/
example : (Prog.run (Faults.exec ⟨fun n => if n = 1 then .before .botoCoreError else .success,
      by intro n; split <;> simp [conditionalCheckFailed]⟩)
      (handler (fun _ => "") [sampleRecord, ⟨"m-2", .json sampleEvent⟩, ⟨"m-3", .json (.arr [])⟩])
      (0, .empty)).1.toOption = some ["m-1", "m-3"] := by
  rfl

end TenantSaas
