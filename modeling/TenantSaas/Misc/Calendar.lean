import Mathlib.Order.Monotone.Basic
import TenantSaas.Misc.DateTime

/-!
# Instants and months

The proleptic Gregorian calendar as consecutive stretches of days: where a month begins on the
line of instants, and that an instant lies in one month only.
-/

namespace PyDateTime

/-! ## Consecutive stretches -/

section Stretches

variable {start len : Nat → Int} {first n m : Nat} {i : Int}

/-- Stretches that follow one another do not overlap. -/
theorem le_start_of_lt (hnext : ∀ n, first ≤ n → start (n + 1) = start n + len n)
    (hlen : ∀ n, 0 ≤ len n) (hn : first ≤ n) (h : n < m) : start n + len n ≤ start m := by
  induction m, h using Nat.le_induction with
  | base => rw [hnext n hn]
  | succ m hm ih =>
    have hstep := hnext m (by omega)
    have hpositive := hlen m
    omega

theorem stretch_unique (hnext : ∀ n, first ≤ n → start (n + 1) = start n + len n)
    (hlen : ∀ n, 0 ≤ len n) (hn : first ≤ n) (hm : first ≤ m)
    (h : start n ≤ i ∧ i < start n + len n) (h' : start m ≤ i ∧ i < start m + len m) : n = m := by
  rcases Nat.lt_trichotomy n m with hlt | heq | hgt
  · have hend := le_start_of_lt hnext hlen hn hlt
    omega
  · exact heq
  · have hend := le_start_of_lt hnext hlen hm hgt
    omega

end Stretches

/-! ## Days -/

/-- Days of a year before its `month`-th month; there is no month 0. -/
def daysBeforeMonth (year : Nat) : Nat → Nat
  | 0 => 0
  | month + 1 => daysBeforeMonth year month + if month = 0 then 0 else daysInMonth year month

theorem daysBeforeMonth_thirteen (year : Nat) :
    daysBeforeMonth year 13 = if isLeap year then 366 else 365 := by
  cases hleap : isLeap year <;> simp [daysBeforeMonth, daysInMonth, hleap]

theorem isLeap_iff {year : Nat} :
    isLeap year = true ↔ 4 ∣ year ∧ (¬ 100 ∣ year ∨ 400 ∣ year) := by
  simp [isLeap, Nat.dvd_iff_mod_eq_zero]

theorem daysBeforeYear_succ {year : Nat} (h : 1 ≤ year) :
    daysBeforeYear (year + 1) = daysBeforeYear year + if isLeap year then 366 else 365 := by
  obtain ⟨k, rfl⟩ : ∃ k, year = k + 1 := ⟨year - 1, by omega⟩
  simp only [daysBeforeYear, Nat.add_sub_cancel, Nat.succ_div, isLeap_iff]
  have hcentury : 100 ∣ k + 1 → 4 ∣ k + 1 := (by norm_num : 4 ∣ 100).trans
  have hfourth : 400 ∣ k + 1 → 100 ∣ k + 1 := (by norm_num : 100 ∣ 400).trans
  have hle : k / 100 ≤ k := Nat.div_le_self k 100
  generalize k / 4 = fours at *
  generalize k / 100 = centuries at *
  generalize k / 400 = fourths
  by_cases h4 : 4 ∣ k + 1
  swap
  · have h100 := mt hcentury h4
    simp only [h4, h100, mt hfourth h100, false_and, if_false]
    omega
  by_cases h100 : 100 ∣ k + 1
  swap
  · simp only [h4, h100, mt hfourth h100, not_false_eq_true, true_or, and_self, if_true, if_false]
    omega
  by_cases h400 : 400 ∣ k + 1
  · simp only [h4, h100, h400, or_true, and_self, if_true]
    omega
  · simp only [h4, h100, h400, not_true_eq_false, or_self, and_false, if_true, if_false]
    omega

/-- Days before the first of a month, counted from 0001-01-01. -/
def daysBefore (year month : Nat) : Nat := daysBeforeYear year + daysBeforeMonth year month

/-! ## Months -/

/-- Months as one sequence; January of year 1 is number 12. -/
def monthNumber (year month : Nat) : Nat := year * 12 + (month - 1)

def monthStart (n : Nat) : Int := daysBefore (n / 12) (n % 12 + 1)

def monthLength (n : Nat) : Int := daysInMonth (n / 12) (n % 12 + 1)

/-- The next month begins where a month ends. -/
theorem monthStart_succ {n : Nat} (h : 12 ≤ n) :
    monthStart (n + 1) = monthStart n + monthLength n := by
  unfold monthStart monthLength
  by_cases hmonth : n % 12 = 11
  · have hyear : (n + 1) / 12 = n / 12 + 1 := by omega
    have hjanuary : (n + 1) % 12 = 0 := by omega
    have hdays := daysBeforeMonth_thirteen (n / 12)
    have hnext := @daysBeforeYear_succ (n / 12) (by omega)
    have hfirst : daysBeforeMonth (n / 12 + 1) 1 = 0 := rfl
    rw [daysBeforeMonth, if_neg (by decide)] at hdays
    rw [hyear, hjanuary, hmonth, daysBefore, daysBefore, hnext]
    simp only [Nat.reduceAdd, hfirst]
    omega
  · have hyear : (n + 1) / 12 = n / 12 := by omega
    have hsucc : (n + 1) % 12 = n % 12 + 1 := by omega
    rw [hyear, hsucc, daysBefore, daysBefore, daysBeforeMonth, if_neg (by omega)]
    push_cast
    ring

theorem monthLength_nonneg (n : Nat) : 0 ≤ monthLength n := Int.natCast_nonneg _

theorem monthNumber_div {year month : Nat} (h : 1 ≤ month ∧ month ≤ 12) :
    monthNumber year month / 12 = year ∧ monthNumber year month % 12 + 1 = month := by
  unfold monthNumber
  omega

/-! ## Instants -/

/-- The microseconds of a day. -/
def dayMicros : Int := 86400000000

namespace DateTime

/-- Microseconds since the first of the month, in the datetime's own offset. -/
def sinceMonth (t : DateTime) : Int :=
  (t.day - 1) * dayMicros + ((t.hour * 3600 + t.minute * 60 + t.second) * 1000000 + t.microsecond)

/-- Microseconds until the month ends, in the datetime's own offset. -/
def untilMonthEnd (t : DateTime) : Int := daysInMonth t.year t.month * dayMicros - t.sinceMonth

/-- Microseconds since 0001-01-01 in UTC; a naive datetime is read as UTC. -/
def instant (t : DateTime) : Int :=
  daysBefore t.year t.month * dayMicros + t.sinceMonth - t.utcoffset.getD 0

theorem sinceMonth_range (t : DateTime) :
    0 ≤ t.sinceMonth ∧ t.sinceMonth < daysInMonth t.year t.month * dayMicros := by
  have hday := t.day_range
  have htime := t.time_range
  unfold sinceMonth dayMicros
  omega

end DateTime

/-- The instant lies in the month, in UTC. -/
def InMonth (year month : Nat) (i : Int) : Prop :=
  daysBefore year month * dayMicros ≤ i ∧
    i < (daysBefore year month + daysInMonth year month) * dayMicros

/-- An instant lies in one month only. -/
theorem InMonth.unique {year month year' month' : Nat} {i : Int} (hyear : 1 ≤ year)
    (hmonth : 1 ≤ month ∧ month ≤ 12) (hyear' : 1 ≤ year') (hmonth' : 1 ≤ month' ∧ month' ≤ 12)
    (h : InMonth year month i) (h' : InMonth year' month' i) : year = year' ∧ month = month' := by
  obtain ⟨hdiv, hmod⟩ := @monthNumber_div year month hmonth
  obtain ⟨hdiv', hmod'⟩ := @monthNumber_div year' month' hmonth'
  have hsame := @stretch_unique (fun n => monthStart n * dayMicros)
    (fun n => monthLength n * dayMicros) 12 (monthNumber year month) (monthNumber year' month') i
    (fun n hn => by rw [monthStart_succ hn, add_mul])
    (fun n => Int.mul_nonneg (monthLength_nonneg n) (by decide))
    (by unfold monthNumber; omega) (by unfold monthNumber; omega)
  simp only [monthStart, monthLength, hdiv, hmod, hdiv', hmod', ← add_mul] at hsame
  have hnumber := hsame h h'
  rw [hnumber] at hdiv hmod
  exact ⟨hdiv.symm.trans hdiv', hmod.symm.trans hmod'⟩

/-- The instant of a datetime lies in the datetime's own month exactly when its offset does not
carry it past an end of that month. -/
theorem inMonth_instant_iff {t : DateTime} {offset : Int} (h : t.utcoffset = some offset) :
    InMonth t.year t.month t.instant ↔ offset ≤ t.sinceMonth ∧ -offset < t.untilMonthEnd := by
  unfold InMonth DateTime.instant DateTime.untilMonthEnd
  rw [h, Option.getD_some, add_mul]
  constructor <;> intro hrange <;> omega

end PyDateTime
