import TenantSaas.Metering.Conservation

/-!
# Redelivery after faults

SQS hands batches to invocations of the handler and takes back exactly the messages an
invocation lists, or its whole batch when it dies.  The duplicate branch reads an existing
row as a sign that the increment was made; this file finds when that is so.
-/

namespace TenantSaas

/-- The queue and the invocations that hold its messages. -/
structure Delivery where
  visible : List Record
  lambda : Lambda

/-- What a step of the invocations does to the queue. -/
inductive Moves : LambdaLabel → List Record → List Record → Prop where
  | deliver {batch rest visible : List Record} (h : visible.Perm (batch ++ rest)) :
      Moves (.start batch) visible rest
  | call (batch : List Record) (op : DynamoOp) (outcome : Outcome) (visible : List Record) :
      Moves (.call batch op outcome) visible visible
  | die (batch : List Record) (rest : Metering (List String)) (visible : List Record) :
      Moves (.die batch rest) visible (batch ++ visible)
  | finish (batch : List Record) (failed : List String) (visible : List Record) :
      Moves (.finish batch (.ok failed)) visible
        (batch.filter (fun record => record.messageId ∈ failed) ++ visible)
  | crash (batch : List Record) (e : PyError) (visible : List Record) :
      Moves (.finish batch (.error e)) visible (batch ++ visible)

namespace Delivery

/-- Runs from an empty queue and empty tables; the trace holds the invocations' steps. -/
inductive Run (repr : Json → String) : LambdaTrace → Delivery → Prop where
  | init : Run repr [] ⟨[], Lambda.init⟩
  | send {trace : LambdaTrace} {visible : List Record} {lambda : Lambda} (record : Record)
      (run : Run repr trace ⟨visible, lambda⟩) : Run repr trace ⟨record :: visible, lambda⟩
  | step {trace : LambdaTrace} {visible visible' : List Record} {lambda lambda' : Lambda}
      {label : LambdaLabel} (run : Run repr trace ⟨visible, lambda⟩)
      (step : Pool.Step execOp (handler repr) lambda label lambda')
      (moves : Moves label visible visible') :
      Run repr (trace ++ [(lambda, label)]) ⟨visible', lambda'⟩

/-- The invocations of a delivery run are a run of the handler. -/
theorem Run.lambda {repr : Json → String} {trace : LambdaTrace} {q : Delivery}
    (run : Run repr trace q) : Lambda.Run repr trace q.lambda := by
  induction run with
  | init => exact .nil
  | send record run ih => exact ih
  | step run step moves ih => exact ih.snoc step

end Delivery

/-- The message has a body that `_validate` accepts. -/
def Record.Valid (record : Record) : Prop :=
  ∃ event, record.body.loads = .ok event ∧ validate event = .ok ()

/-- Every message with a valid body has left the queue and its invocation. -/
def Delivery.AllAcknowledged (q : Delivery) : Prop :=
  ∀ record, record.Valid → record ∉ q.visible ∧ ∀ thread ∈ q.lambda.threads, record ∉ thread.1

section Calls

variable (repr : Json → String)

/-- Only a message with a valid body makes calls. -/
theorem handler_calls_valid (batch : List Record) :
    (handler repr batch).Calls fun _ => ∃ record ∈ batch, record.Valid := by
  apply handler_calls
  intro record hrecord event hbody hvalid item update _
  have hexists : ∃ record ∈ batch, record.Valid := ⟨record, hrecord, event, hbody, hvalid⟩
  exact ⟨hexists, hexists⟩

theorem calls_threadRule :
    Pool.ThreadRule execOp (handler repr) (fun _ => True) (fun _ => True)
      fun batch p _ => p.Calls fun _ => ∃ record ∈ batch, record.Valid where
  start _ batch _ _ := handler_calls_valid repr batch
  call _ _ _ _ _ _ _ h := ⟨trivial, h.2 _⟩
  stable _ _ _ _ _ _ _ _ _ _ h := h

end Calls

section Settled

variable {repr : Json → String} {trace : LambdaTrace} {q : Delivery}

/-- Once every valid message is acknowledged no invocation stands before an increment. -/
theorem owedBy_eq_zero (run : Lambda.Run repr trace q.lambda) (acked : q.AllAcknowledged) :
    owedBy q.lambda.threads = 0 := by
  have hcalls := ((calls_threadRule repr).run run (fun _ _ => trivial) trivial
    (by simp [Lambda.init])).1.2
  unfold owedBy
  rw [Multiset.coe_eq_zero, List.filterMap_eq_nil_iff]
  intro thread hthread
  have hthread' := hcalls thread hthread
  cases hp : thread.2 with
  | ret a => rfl
  | raise e => rfl
  | call op next =>
    cases op with
    | putItem item => rfl
    | updateItem update =>
      rw [hp] at hthread'
      obtain ⟨record, hrecord, hvalid⟩ := hthread'.1
      exact absurd hrecord ((acked record hvalid).2 thread hthread)

/-- With every valid message acknowledged, the aggregate says what the ledger says exactly
when no fault ever fell between a row taking effect and its increment taking effect. -/
theorem consistent_iff_none_lost (run : Delivery.Run repr trace q) (acked : q.AllAcknowledged) :
    (∀ tenant m, q.lambda.store.Consistent tenant m) ↔ ∀ x ∈ trace, losesIncrement x = false := by
  obtain ⟨t, reach, h⟩ := represents_run run.lambda
  have hpending : t.pending.map UsageWrite.update = 0 := by
    rw [← h.pending]
    exact owedBy_eq_zero run.lambda acked
  rw [consistent_iff_lost_eq_zero reach h (Multiset.map_eq_zero.mp hpending)]
  exact h.lost

end Settled

/-- One throttled increment: the message is listed, its redelivery finds the row and is
acknowledged, and the aggregate never learns of it. -/
theorem exists_throttled_run : ∃ trace q, Delivery.Run (fun _ => "") trace q ∧
    q.AllAcknowledged ∧ q.lambda.store.ledgerCount "TenantA" august = 1 ∧
    q.lambda.store.requestCount "TenantA" august = 0 := by
  have sent := (@Delivery.Run.init fun _ => "").send sampleRecord
  have first := (((sent.step (.start _ _ [sampleRecord])
    (@Moves.deliver _ [] _ (List.Perm.refl _))).step
    (.call _ [] [] _ _ _ Outcome.success) (.call ..)).step
    (.call _ [] [] _ _ _ (Outcome.before .botoCoreError)) (.call ..)).step
    (.done _ [] [] _ ["m-1"]) (.finish ..)
  have second := ((first.step (.start _ _ [sampleRecord])
    (@Moves.deliver _ [] _ (List.Perm.refl _))).step
    (.call _ [] [] _ _ _ Outcome.success) (.call ..)).step
    (.done _ [] [] _ []) (.finish ..)
  refine ⟨_, _, second, ?_, rfl, rfl⟩
  intro record _
  exact ⟨List.not_mem_nil, by simp⟩

/-- The run of one throttled increment has a step that lost it. -/
theorem throttled_run_loses : ∃ trace q, Delivery.Run (fun _ => "") trace q ∧
    q.AllAcknowledged ∧ ¬ ∀ x ∈ trace, losesIncrement x = false := by
  obtain ⟨trace, q, run, acked, hledger, hrequests⟩ := exists_throttled_run
  refine ⟨trace, q, run, acked, ?_⟩
  rw [← consistent_iff_none_lost run acked]
  intro hall
  have hconsistent := (hall "TenantA" august).1
  rw [hledger, hrequests] at hconsistent
  exact absurd hconsistent (by decide)

/-- A row in the ledger is no sign that its increment was made. -/
theorem throttled_increment_lost : ¬ ∀ trace q, Delivery.Run (fun _ => "") trace q →
    q.AllAcknowledged → ∀ tenant m, q.lambda.store.Consistent tenant m := by
  intro h
  obtain ⟨trace, q, run, acked, hledger, hrequests⟩ := exists_throttled_run
  have hconsistent := (h trace q run acked "TenantA" august).1
  rw [hledger, hrequests] at hconsistent
  exact absurd hconsistent (by decide)

end TenantSaas
