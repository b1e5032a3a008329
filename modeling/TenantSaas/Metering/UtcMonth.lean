import TenantSaas.Misc.Calendar
import TenantSaas.App.World
import TenantSaas.Services.BillingService

/-!
# The month of an event

`_billing_month` takes year and month from the timestamp as it is written, in its own offset;
`current_billing_period` takes them from a clock in UTC.
-/

namespace TenantSaas

open PyDateTime

/-- The usage of a timestamp is filed under the UTC month of its instant, which is the month
`current_billing_period` gives at that instant. -/
structure FiledUnderUtc (timestamp : Json) (t : DateTime) : Prop where
  month : ∃ m : BillingMonth, billingMonth timestamp = .ok m.key ∧
    InMonth m.year m.month t.instant
  current : ∀ (world : World) (s : AppState), (world.now s.tick).instant = t.instant →
    (world.run currentBillingPeriod s).1 = billingMonth timestamp

section UtcMonth

variable {timestamp timestamp' : Json} {t t' : DateTime}

theorem billingMonth_of_parse (h : parseTimestamp timestamp = .ok t) :
    billingMonth timestamp = .ok (BillingMonth.ofDateTime t).key := by
  unfold billingMonth
  rw [h]
  rfl

theorem run_currentBillingPeriod (world : World) (s : AppState) :
    (world.run currentBillingPeriod s).1 = .ok (strftimeMonth (world.now s.tick)) := rfl

/-- A clock in UTC shows the month of its instant. -/
theorem inMonth_of_utc (h : t.utcoffset = some 0) : InMonth t.year t.month t.instant := by
  obtain ⟨hstart, hend⟩ := t.sinceMonth_range
  rw [inMonth_instant_iff h, DateTime.untilMonthEnd]
  omega

/-- Datetimes that show the month of one instant show one month. -/
theorem strftimeMonth_eq (h : InMonth t.year t.month t.instant)
    (h' : InMonth t'.year t'.month t'.instant) (hinstant : t'.instant = t.instant) :
    strftimeMonth t' = strftimeMonth t := by
  rw [hinstant] at h'
  obtain ⟨hyear, hmonth⟩ := h'.unique t'.year_range.1 t'.month_range t.year_range.1
    t.month_range h
  unfold strftimeMonth
  rw [hyear, hmonth]

theorem FiledUnderUtc.inMonth (h : FiledUnderUtc timestamp t)
    (parsed : parseTimestamp timestamp = .ok t) : InMonth t.year t.month t.instant := by
  obtain ⟨m, hmonth, hin⟩ := h.month
  rw [billingMonth_of_parse parsed] at hmonth
  obtain rfl := BillingMonth.key_inj (Except.ok.inj hmonth)
  exact hin

/-- Two notations of one instant get one month key. -/
theorem FiledUnderUtc.billingMonth_eq (h : FiledUnderUtc timestamp t)
    (h' : FiledUnderUtc timestamp' t') (parsed : parseTimestamp timestamp = .ok t)
    (parsed' : parseTimestamp timestamp' = .ok t') (hinstant : t'.instant = t.instant) :
    billingMonth timestamp' = billingMonth timestamp := by
  rw [billingMonth_of_parse parsed, billingMonth_of_parse parsed']
  exact congrArg Except.ok (strftimeMonth_eq (h.inMonth parsed) (h'.inMonth parsed') hinstant)

end UtcMonth

/-- A timestamp with an offset is filed under the UTC month of its instant exactly when the offset
is no more than what has passed of the written month, and an offset to the west less than what is
left of it. -/
theorem filedUnderUtc_iff (timestamp : Json) (t : DateTime) (offset : Int)
    (parsed : parseTimestamp timestamp = .ok t) (explicit : t.utcoffset = some offset) :
    FiledUnderUtc timestamp t ↔ offset ≤ t.sinceMonth ∧ -offset < t.untilMonthEnd := by
  rw [← inMonth_instant_iff explicit]
  constructor
  · intro h
    exact h.inMonth parsed
  · intro hin
    refine ⟨⟨.ofDateTime t, billingMonth_of_parse parsed, hin⟩, fun world s hinstant => ?_⟩
    have hnow := inMonth_of_utc (world.now_utc s.tick)
    rw [run_currentBillingPeriod, billingMonth_of_parse parsed]
    exact congrArg Except.ok (strftimeMonth_eq hin hnow hinstant)

/-- The first of August, half past midnight, at an offset from UTC. -/
def augustNight (offset : Int) (h : -86400000000 < offset ∧ offset < 86400000000) : DateTime :=
  { sampleTime with
    hour := 0
    minute := 30
    utcoffset := some offset
    time_range := by decide
    offset_range := by
      rintro o ⟨⟩
      exact h }

/-- Half past midnight in UTC-02:00 is August in UTC. -/
theorem west_filed : FiledUnderUtc (.str "2026-08-01T00:30:00-02:00")
    (augustNight (-7200000000) (by decide)) :=
  (filedUnderUtc_iff _ _ _ rfl rfl).mpr (by decide)

/-- Half past midnight in UTC+02:00 is July in UTC, and filed under August. -/
theorem east_misfiled : ¬ ∀ (timestamp : Json) (t : DateTime),
    parseTimestamp timestamp = .ok t → t.utcoffset ≠ none → FiledUnderUtc timestamp t := by
  intro h
  have hfiled := h (.str "2026-08-01T00:30:00+02:00") (augustNight 7200000000 (by decide)) rfl
    (by decide)
  have hmonth := (inMonth_instant_iff rfl).mp (hfiled.inMonth rfl)
  revert hmonth
  decide

end TenantSaas
