import Mathlib.Algebra.BigOperators.Ring.Finset
import TenantSaas.Metering.Conservation

/-!
# The amounts events state

What becomes of `usage_units` between the validation and the two writes, for a sequence of
events whose calls all succeed: the validation takes any positive number, the writes cut it to an
integer.
-/

namespace TenantSaas

/-- The number a JSON value is; `true` is 1, and what has no finite value is none. -/
def Json.number : Json → Option ℚ
  | bool b => some (if b then 1 else 0)
  | int i => some i
  | float (.fin q) => some q
  | _ => none

/-- The amount an event states. -/
def statedUnits (event : Json) : Option ℚ :=
  match event.getItem "usage_units" with
  | .ok units => units.number
  | .error _ => none

/-- One event against the tables. -/
def processOne (repr : Json → String) (tables : Tables) (event : Json) : Tables :=
  (Prog.run applyOp (processEvent repr event) tables).2

/-- The events one after the other: the tables after them, and each event that was recorded as
new, with its row. -/
def processAll (repr : Json → String) (tables : Tables) :
    List Json → Tables × List (Json × LedgerItem)
  | [] => (tables, [])
  | event :: events =>
    let after := processOne repr tables event
    let rest := processAll repr after events
    (rest.1, (after.ledger.drop tables.ledger.length).map (event, ·) ++ rest.2)

/-- The row and the aggregate carry what the events stated. -/
structure StatedKept (repr : Json → String) (tables : Tables) (events : List Json) : Prop where
  rows : ∀ entry ∈ (processAll repr tables events).2,
    0 < entry.2.usageUnits ∧ statedUnits entry.1 = some (entry.2.usageUnits : ℚ)
  total : ∀ tenant m, ((processAll repr tables events).1.usageUnits tenant m : ℚ) =
    tables.usageUnits tenant m +
      (((processAll repr tables events).2.filter fun entry => entry.2.filedUnder tenant m).map
        fun entry => (statedUnits entry.1).getD 0).sum

section Process

variable {repr : Json → String} {tables : Tables} {event : Json}

/-- The two calls, when both succeed or the row is there. -/
theorem run_recordUsage_tables (item : LedgerItem) (update : AggregateUpdate) :
    (Prog.run applyOp (recordUsage item update) tables).2 =
      if tables.holds item then tables
      else ⟨tables.ledger ++ [item], applyUpdate update tables.aggregate⟩ := by
  have hcall : recordUsage item update = .call (.putItem item) _ := rfl
  rw [hcall, Prog.run_call]
  simp only [applyOp]
  by_cases hholds : tables.holds item = true
  · rw [if_pos hholds, if_pos hholds]
    rfl
  · rw [if_neg hholds, if_neg hholds]
    rfl

/-- What one event does to the tables, in two cases. -/
theorem processOne_cases (repr : Json → String) (tables : Tables) (event : Json) :
    processOne repr tables event = tables ∨
      ∃ w : UsageWrite repr, validate event = .ok () ∧
        usageWrites repr event = .ok (w.item, w.update) ∧
        processOne repr tables event =
          ⟨tables.ledger ++ [w.item], applyUpdate w.update tables.aggregate⟩ := by
  unfold processOne processEvent
  cases hvalid : validate event with
  | error e => exact .inl rfl
  | ok u =>
    cases hwrites : usageWrites repr event with
    | error e => exact .inl rfl
    | ok writes =>
      obtain ⟨item, update⟩ := writes
      obtain ⟨w, rfl, rfl⟩ := usageWrites_usageWrite hvalid hwrites
      have hrecord := @run_recordUsage_tables tables w.item w.update
      by_cases hholds : tables.holds w.item = true
      · rw [if_pos hholds] at hrecord
        exact .inl hrecord
      · rw [if_neg hholds] at hrecord
        exact .inr ⟨w, rfl, rfl, hrecord⟩

/-- The written amount is the stated one, cut to an integer. -/
theorem usageUnits_eq_tdiv {w : UsageWrite repr} (hvalid : validate event = .ok ())
    (hwrites : usageWrites repr event = .ok (w.item, w.update)) :
    ∃ q : ℚ, statedUnits event = some q ∧ 0 < q ∧
      w.item.usageUnits = Int.tdiv q.num q.den := by
  obtain ⟨-, -, ⟨units, hunits, hnum, hpos⟩, -, -⟩ := validate_eq_ok.mp hvalid
  unfold usageWrites at hwrites
  simp only [exceptBind_eq_ok] at hwrites
  obtain ⟨tenantId, -, eventId, -, timestamp, -, month, -, units', hunits', n, hn,
    userId, -, apiPath, -, httpMethod, -, statusCode, -, hw⟩ := hwrites
  have hitem := congrArg LedgerItem.usageUnits (Prod.mk.inj (Except.ok.inj hw)).1
  obtain rfl := Except.ok.inj (hunits'.symm.trans hunits)
  rw [← hitem]
  show ∃ q : ℚ, _ ∧ _ ∧ n = _
  rw [statedUnits, hunits]
  cases units' with
  | bool b =>
    cases b with
    | true => exact ⟨1, rfl, by norm_num, (Except.ok.inj hn).symm⟩
    | false => cases hpos
  | int i =>
    refine ⟨i, rfl, ?_, ?_⟩
    · simp only [Json.isNonpositive, decide_eq_false_iff_not, not_le] at hpos
      exact_mod_cast hpos
    · rw [Rat.num_intCast, Rat.den_intCast, Nat.cast_one, Int.tdiv_one]
      exact (Except.ok.inj hn).symm
  | float x =>
    cases x with
    | fin q =>
      simp only [Json.isNonpositive, decide_eq_false_iff_not, not_le] at hpos
      exact ⟨q, rfl, hpos, (Except.ok.inj hn).symm⟩
    | nan => cases hn
    | inf negative => cases hn
  | null => cases hnum
  | str text => cases hnum
  | arr items => cases hnum
  | obj fields => cases hnum

/-- An event that is recorded with what it states, a positive amount. -/
theorem stated_iff {w : UsageWrite repr} (hvalid : validate event = .ok ())
    (hwrites : usageWrites repr event = .ok (w.item, w.update)) :
    (0 < w.item.usageUnits ∧ statedUnits event = some (w.item.usageUnits : ℚ)) ↔
      ∃ n : ℤ, statedUnits event = some (n : ℚ) := by
  constructor
  · intro h
    obtain ⟨-, hstated⟩ := h
    exact ⟨_, hstated⟩
  · intro h
    obtain ⟨n, hstated⟩ := h
    obtain ⟨q, hq, hpositive, hunits⟩ := usageUnits_eq_tdiv hvalid hwrites
    obtain rfl : q = n := Option.some.inj (hq.symm.trans hstated)
    rw [Rat.num_intCast, Rat.den_intCast, Nat.cast_one, Int.tdiv_one] at hunits
    rw [hunits]
    exact ⟨by exact_mod_cast hpositive, hstated⟩

end Process

section Sequence

variable {repr : Json → String}

theorem usageUnits_eq_attributeAt (tables : Tables) (tenant : String) (m : BillingMonth) :
    tables.usageUnits tenant m =
      attributeAt AggregateItem.usageUnits (partitionKey tenant) (monthKey m)
        tables.aggregate := rfl

/-- A recorded event adds its row's amount to the aggregate of the row's tenant and month. -/
theorem usageUnits_recorded (w : UsageWrite repr) (tables : Tables) (tenant : String)
    (m : BillingMonth) :
    Tables.usageUnits ⟨tables.ledger ++ [w.item], applyUpdate w.update tables.aggregate⟩ tenant m =
      tables.usageUnits tenant m +
        if w.item.filedUnder tenant m then w.item.usageUnits else 0 := by
  rw [usageUnits_eq_attributeAt, usageUnits_applyUpdate, w.adds_eq, w.update_units]
  rfl

/-- The pass of one event, before the rest. -/
theorem processAll_cons (tables : Tables) (event : Json) (events : List Json) :
    processAll repr tables (event :: events) = processAll repr tables events ∨
      ∃ w : UsageWrite repr, validate event = .ok () ∧
        usageWrites repr event = .ok (w.item, w.update) ∧
        processAll repr tables (event :: events) =
          ((processAll repr ⟨tables.ledger ++ [w.item],
              applyUpdate w.update tables.aggregate⟩ events).1,
            (event, w.item) :: (processAll repr ⟨tables.ledger ++ [w.item],
              applyUpdate w.update tables.aggregate⟩ events).2) := by
  rw [processAll]
  rcases processOne_cases repr tables event with hsame | ⟨w, hvalid, hwrites, hafter⟩
  · left
    simp only [hsame, List.drop_length, List.map_nil, List.nil_append]
  · right
    refine ⟨w, hvalid, hwrites, ?_⟩
    simp only [hafter, List.drop_left, List.map_cons, List.map_nil, List.singleton_append]

/-- Where the rows of a sequence come from. -/
theorem exists_write {tables : Tables} {events : List Json} {entry : Json × LedgerItem}
    (h : entry ∈ (processAll repr tables events).2) : ∃ w : UsageWrite repr,
      validate entry.1 = .ok () ∧ usageWrites repr entry.1 = .ok (w.item, w.update) ∧
        entry.2 = w.item := by
  induction events generalizing tables with
  | nil => cases h
  | cons event events ih =>
    rcases @processAll_cons repr tables event events with hsame | ⟨w, hvalid, hwrites, hcons⟩
    · rw [hsame] at h
      exact ih h
    · rw [hcons] at h
      rcases List.mem_cons.mp h with rfl | hrest
      · exact ⟨w, hvalid, hwrites, rfl⟩
      · exact ih hrest

/-- The aggregate grows by the amounts of the new rows. -/
theorem usageUnits_processAll (tables : Tables) (events : List Json) (tenant : String)
    (m : BillingMonth) :
    (processAll repr tables events).1.usageUnits tenant m = tables.usageUnits tenant m +
      (((processAll repr tables events).2.filter fun entry => entry.2.filedUnder tenant m).map
        fun entry => entry.2.usageUnits).sum := by
  induction events generalizing tables with
  | nil => simp [processAll]
  | cons event events ih =>
    rcases @processAll_cons repr tables event events with hsame | ⟨w, -, -, hcons⟩
    · rw [hsame]
      exact ih tables
    · rw [hcons]
      simp only
      rw [ih, usageUnits_recorded, List.filter_cons]
      by_cases hfiled : w.item.filedUnder tenant m = true
      · rw [if_pos hfiled, if_pos hfiled, List.map_cons, List.sum_cons]
        exact add_assoc _ _ _
      · rw [if_neg hfiled, if_neg hfiled]
        omega

end Sequence

/-- For every sequence of events, every event recorded as new gives its row and the aggregate the
amount it states exactly when these events state integers. -/
theorem statedKept_iff (repr : Json → String) (tables : Tables) (events : List Json) :
    StatedKept repr tables events ↔
      ∀ entry ∈ (processAll repr tables events).2, ∃ n : ℤ, statedUnits entry.1 = some (n : ℚ) := by
  have hrow : ∀ entry ∈ (processAll repr tables events).2,
      (0 < entry.2.usageUnits ∧ statedUnits entry.1 = some (entry.2.usageUnits : ℚ)) ↔
        ∃ n : ℤ, statedUnits entry.1 = some (n : ℚ) := by
    intro entry hentry
    obtain ⟨w, hvalid, hwrites, hitem⟩ := exists_write hentry
    rw [hitem]
    exact stated_iff hvalid hwrites
  constructor
  · intro h entry hentry
    exact (hrow entry hentry).mp (h.rows entry hentry)
  · intro h
    refine ⟨fun entry hentry => (hrow entry hentry).mpr (h entry hentry), fun tenant m => ?_⟩
    have hamounts : ((processAll repr tables events).2.filter fun entry =>
        entry.2.filedUnder tenant m).map (fun entry => (statedUnits entry.1).getD 0) =
        (((processAll repr tables events).2.filter fun entry =>
          entry.2.filedUnder tenant m).map fun entry => entry.2.usageUnits).map
            (fun units : ℤ => (units : ℚ)) := by
      rw [List.map_map]
      refine List.map_congr_left fun entry hentry => ?_
      have hmem := (List.mem_filter.mp hentry).1
      rw [((hrow entry hmem).mpr (h entry hmem)).2]
      rfl
    rw [hamounts, usageUnits_processAll, Int.cast_add, Int.cast_list_sum]

/-- An event that states half a unit. -/
def halfEvent : Json := .obj [
  ("event_id", .str "e-1"), ("tenant_id", .str "TenantA"), ("user_id", .str "u-1"),
  ("api_path", .str "/api/v1/orders"), ("http_method", .str "GET"), ("status_code", .int 200),
  ("usage_units", .float (.fin ⟨1, 2, by decide, by decide⟩)),
  ("timestamp", .str "2026-08-01T12:00:00+00:00")]

/-- Half a unit is recorded as none. -/
theorem half_unit_lost : ¬ ∀ (repr : Json → String) (tables : Tables) (events : List Json),
    StatedKept repr tables events := by
  intro h
  have hrecorded : ((processAll (fun _ => "") .empty [halfEvent]).2.map fun entry =>
      entry.2.usageUnits) = [0] := by
    rfl
  have hrows := (h (fun _ => "") .empty [halfEvent]).rows
  cases hentries : (processAll (fun _ => "") .empty [halfEvent]).2 with
  | nil =>
    rw [hentries] at hrecorded
    cases hrecorded
  | cons entry entries =>
    rw [hentries, List.map_cons] at hrecorded
    obtain ⟨hzero, -⟩ := List.cons.inj hrecorded
    have hpositive := (hrows entry (by rw [hentries]; exact List.mem_cons_self)).1
    omega

end TenantSaas
