import Mathlib.Data.List.TakeDrop
import TenantSaas.Misc.PyStr

/-!
# Python datetimes

`datetime` values with an optional offset from UTC, `isoformat(timespec="milliseconds")`,
`strftime("%Y-%m")` and `datetime.fromisoformat`.  The parser accepts calendar and week dates in
basic and extended notation, as CPython 3.11 and later do, and `24:00`, as CPython 3.14 does; what
CPython lets pass for a fraction right before an offset is left out.  A `ValueError` is `none`.
-/

namespace PyDateTime

open PyStr

def isLeap (year : Nat) : Bool := year % 4 == 0 && (year % 100 != 0 || year % 400 == 0)

def daysInMonth (year month : Nat) : Nat :=
  if month = 2 ∧ isLeap year then 29
  else [0, 31, 28, 31, 30, 31, 30, 31, 31, 30, 31, 30, 31].getD month 0

/-- A `datetime`; `utcoffset` is in microseconds and absent for a naive value. -/
structure DateTime where
  year : Nat
  month : Nat
  day : Nat
  hour : Nat
  minute : Nat
  second : Nat
  microsecond : Nat
  utcoffset : Option Int
  year_range : 1 ≤ year ∧ year ≤ 9999
  month_range : 1 ≤ month ∧ month ≤ 12
  day_range : 1 ≤ day ∧ day ≤ daysInMonth year month
  time_range : hour < 24 ∧ minute < 60 ∧ second < 60 ∧ microsecond < 1000000
  offset_range : ∀ o ∈ utcoffset, -86400000000 < o ∧ o < 86400000000

/-- `datetime(year, ..., tzinfo)`, which checks the ranges. -/
def DateTime.mk? (year month day hour minute second microsecond : Nat)
    (utcoffset : Option Int) : Option DateTime :=
  if h : (1 ≤ year ∧ year ≤ 9999) ∧ (1 ≤ month ∧ month ≤ 12) ∧
      (1 ≤ day ∧ day ≤ daysInMonth year month) ∧
      (hour < 24 ∧ minute < 60 ∧ second < 60 ∧ microsecond < 1000000) ∧
      ∀ o ∈ utcoffset, -86400000000 < o ∧ o < 86400000000 then
    some ⟨year, month, day, hour, minute, second, microsecond, utcoffset, h.1, h.2.1, h.2.2.1,
      h.2.2.2.1, h.2.2.2.2⟩
  else none

/-! ## Printing -/

def dateChars (t : DateTime) : List Char :=
  pad 4 t.year ++ '-' :: (pad 2 t.month ++ '-' :: pad 2 t.day)

def clockChars (t : DateTime) : List Char :=
  pad 2 t.hour ++ ':' :: (pad 2 t.minute ++ ':' ::
    (pad 2 t.second ++ '.' :: pad 3 (t.microsecond / 1000)))

/-- `+HH:MM[:SS[.ffffff]]` -/
def offsetChars : Option Int → List Char
  | none => []
  | some o =>
    let n := o.natAbs
    let seconds := n / 1000000
    (if o < 0 then '-' else '+') :: pad 2 (seconds / 3600) ++ ':' :: pad 2 (seconds / 60 % 60) ++
      (if n % 60000000 = 0 then [] else ':' :: pad 2 (seconds % 60)) ++
      (if n % 1000000 = 0 then [] else '.' :: pad 6 (n % 1000000))

/-- `t.isoformat(timespec="milliseconds")` -/
def isoformatMilliseconds (t : DateTime) : String :=
  String.ofList (dateChars t ++ 'T' :: clockChars t ++ offsetChars t.utcoffset)

/-- `YYYY-MM` -/
def monthChars (year month : Nat) : List Char := pad 4 year ++ '-' :: pad 2 month

/-- `t.strftime("%Y-%m")` -/
def strftimeMonth (t : DateTime) : String := String.ofList (monthChars t.year t.month)

@[simp] theorem monthChars_length (year month : Nat) : (monthChars year month).length = 7 := by
  simp [monthChars]

theorem strftimeMonth_ne (t : DateTime) : strftimeMonth t ≠ "" := by
  intro h
  have hlength := congrArg (fun s => s.toList.length) h
  simp [strftimeMonth] at hlength

theorem notMem_monthChars {c : Char} (hc : c.toNat < 48 ∨ 57 < c.toNat) (hs : c ≠ '-')
    (year month : Nat) : c ∉ monthChars year month := by
  simp [monthChars, notMem_pad hc, hs]

theorem monthChars_inj {y m y' m' : Nat} (hy : y < 10 ^ 4) (hm : m < 10 ^ 2) (hy' : y' < 10 ^ 4)
    (hm' : m' < 10 ^ 2) (h : monthChars y m = monthChars y' m') : y = y' ∧ m = m' := by
  obtain ⟨h4, h2⟩ := List.append_inj h (by simp)
  exact ⟨pad_inj hy hy' h4, pad_inj hm hm' (List.cons.inj h2).2⟩

/-! ## Parsing -/

def isDigit (c : Char) : Bool := (digit? c).isSome

/-- Where the date part ends (`_find_isoformat_datetime_separator`). -/
def findSeparator (s : List Char) : Option Nat :=
  if s.length = 7 then some 7
  else if s[4]? = some '-' then
    if s[5]? = some 'W' then
      if s[8]? = some '-' then
        if s.length = 9 then none
        else if (s[10]?.map isDigit).getD false then some 8 else some 10
      else some 8
    else some 10
  else if s[4]? = some 'W' then
    let idx := 7 + ((s.drop 7).takeWhile isDigit).length
    if idx < 9 then some idx else if idx % 2 = 0 then some 7 else some 8
  else some 8

/-- Days before January 1st of `year`, counted from 0001-01-01. -/
def daysBeforeYear (year : Nat) : Nat :=
  let y := year - 1
  y * 365 + y / 4 - y / 100 + y / 400

/-- Walk `days` days on from the first of a month. -/
def walkMonths : Nat → Nat → Nat → Nat → Nat × Nat × Nat
  | 0, year, month, days => (year, month, days + 1)
  | fuel + 1, year, month, days =>
    let len := daysInMonth year month
    if days < len then (year, month, days + 1)
    else if month = 12 then walkMonths fuel (year + 1) 1 (days - len)
    else walkMonths fuel year (month + 1) (days - len)

/-- `_isoweek_to_gregorian`: the day of ISO week `week`; week 1 holds the first Thursday. -/
def isoWeek (year week day : Nat) : Option (Nat × Nat × Nat) :=
  -- 0 is Monday, as 0001-01-01 was one
  let firstWeekday := daysBeforeYear year % 7
  let weeks := if firstWeekday = 3 ∨ (firstWeekday = 2 ∧ isLeap year) then 53 else 52
  if 1 ≤ year ∧ year ≤ 9999 ∧ 1 ≤ week ∧ week ≤ weeks ∧ 1 ≤ day ∧ day ≤ 7 then
    let offset := (week - 1) * 7 + (day - 1)
    if firstWeekday ≤ 3 then
      -- week 1 starts in the last days of the year before
      if firstWeekday ≤ offset then some (walkMonths 14 year 1 (offset - firstWeekday))
      else some (year - 1, 12, 31 + 1 + offset - firstWeekday)
    else some (walkMonths 14 year 1 (offset + 7 - firstWeekday))
  else none

/-- The dash that must follow when the date uses dashes. -/
def eatDash (dash : Bool) : List Char → Option (List Char)
  | '-' :: rest => if dash then some rest else none
  | rest => if dash then none else some rest

def parseDate (s : List Char) : Option (Nat × Nat × Nat) := do
  let (year, rest) ← parseDigits 4 0 s
  let (dash, rest) := match rest with
    | '-' :: rest => (true, rest)
    | rest => (false, rest)
  match rest with
  | 'W' :: rest =>
    let (week, rest) ← parseDigits 2 0 rest
    if rest = [] then isoWeek year week 1
    else
      let rest ← eatDash dash rest
      let (day, _) ← parseDigits 1 0 rest
      isoWeek year week day
  | rest =>
    let (month, rest) ← parseDigits 2 0 rest
    let rest ← eatDash dash rest
    let (day, _) ← parseDigits 2 0 rest
    some (year, month, day)

/-- `.fff`: the digits after the sixth are dropped. -/
def parseFraction : List Char → Option Nat
  | [] => some 0
  | c :: digits =>
    if (c = '.' ∨ c = ',') ∧ digits ≠ [] ∧ digits.all isDigit then do
      let (value, _) ← parseDigits (digits.take 6).length 0 digits
      some (value * 10 ^ (6 - (digits.take 6).length))
    else none

/-- `HH[:?MM[:?SS[.fff]]]`; the first separator decides for both. -/
def parseClock (s : List Char) : Option (Nat × Nat × Nat × Nat) := do
  let (hour, rest) ← parseDigits 2 0 s
  match rest with
  | [] => some (hour, 0, 0, 0)
  | c :: _ =>
    let colon := c == ':'
    let (minute, rest) ← parseDigits 2 0 (if colon then rest.tail else rest)
    match rest with
    | [] => some (hour, minute, 0, 0)
    | c :: _ =>
      if colon && c != ':' then none
      else
        let (second, rest) ← parseDigits 2 0 (if colon then rest.tail else rest)
        let micros ← parseFraction rest
        some (hour, minute, second, micros)

def isTzMark (c : Char) : Bool := c == '+' || c == '-' || c == 'Z'

/-- The offset after the mark `+`, `-` or `Z`, in microseconds. -/
def parseOffset (mark : Char) (s : List Char) : Option Int := do
  if mark = 'Z' then
    if s = [] then some 0 else none
  else if s.length = 0 ∨ s.length = 1 ∨ s.length = 3 then none
  else
    let (hour, minute, second, micros) ← parseClock s
    if hour < 24 ∧ minute < 60 ∧ second < 60 then
      let offset : Int := ((hour * 3600 + minute * 60 + second) * 1000000 + micros : Nat)
      some (if mark = '-' then -offset else offset)
    else none

/-- The clock and the offset of a time part. -/
def parseTime (s : List Char) : Option ((Nat × Nat × Nat × Nat) × Option Int) :=
  match s.span (fun c => !isTzMark c) with
  | (clock, []) => do
    let clock ← parseClock clock
    some (clock, none)
  | (clock, mark :: tz) => do
    let clock ← parseClock clock
    let offset ← parseOffset mark tz
    some (clock, some offset)

/-- The day after, when `24:00` is read as midnight. -/
def nextDay (year month day : Nat) : Nat × Nat × Nat :=
  if month ≤ 12 ∧ day ≤ daysInMonth year month then
    if day + 1 ≤ daysInMonth year month then (year, month, day + 1)
    else if month + 1 ≤ 12 then (year, month + 1, 1)
    else (year + 1, 1, 1)
  else (year, month, day)

/-- `datetime.fromisoformat(s)` on characters. -/
def fromisoformatChars (s : List Char) : Option DateTime := do
  if s.length < 7 then none
  else
    let sep ← findSeparator s
    let (year, month, day) ← parseDate (s.take sep)
    match s.drop sep with
    | [] => DateTime.mk? year month day 0 0 0 0 none
    | _ :: time =>
      let ((hour, minute, second, micros), offset) ← parseTime time
      if hour = 24 then
        if minute = 0 ∧ second = 0 ∧ micros = 0 then
          let (year, month, day) := nextDay year month day
          DateTime.mk? year month day 0 0 0 0 offset
        else none
      else DateTime.mk? year month day hour minute second micros offset

def fromisoformat (s : String) : Option DateTime := fromisoformatChars s.toList

/-! ## Printing and parsing agree -/

namespace DateTime

/-- `t` with its microseconds cut to milliseconds, as `timespec="milliseconds"` prints it. -/
def truncate (t : DateTime) : DateTime :=
  { t with
    microsecond := t.microsecond / 1000 * 1000
    time_range := by
      obtain ⟨hh, hm, hs, hu⟩ := t.time_range
      exact ⟨hh, hm, hs, by omega⟩ }

@[simp] theorem truncate_utcoffset (t : DateTime) : t.truncate.utcoffset = t.utcoffset := rfl
@[simp] theorem strftimeMonth_truncate (t : DateTime) :
    strftimeMonth t.truncate = strftimeMonth t := rfl

theorem year_lt (t : DateTime) : t.year < 10 ^ 4 := by
  have := t.year_range
  omega

theorem month_lt (t : DateTime) : t.month < 10 ^ 2 := by
  have := t.month_range
  omega

theorem day_lt (t : DateTime) : t.day < 10 ^ 2 := by
  have hd := t.day_range
  have hm := t.month_range
  have len : ∀ m ≤ 12, [0, 31, 28, 31, 30, 31, 30, 31, 31, 30, 31, 30, 31].getD m 0 ≤ 31 := by
    decide
  have := len t.month hm.2
  unfold daysInMonth at hd
  split at hd <;> omega

/-- The ranges hold of a `DateTime`, so the constructor accepts its fields. -/
theorem mk?_self (t : DateTime) :
    mk? t.year t.month t.day t.hour t.minute t.second t.microsecond t.utcoffset = some t :=
  dif_pos ⟨t.year_range, t.month_range, t.day_range, t.time_range, t.offset_range⟩

end DateTime

theorem parseDate_dateChars (t : DateTime) :
    parseDate (dateChars t) = some (t.year, t.month, t.day) := by
  have hd := parseDigits_pad_of_lt t.day_lt []
  rw [List.append_nil] at hd
  simp only [parseDate, dateChars, parseDigits_pad_of_lt t.year_lt, Option.bind_eq_bind,
    Option.bind_some]
  split
  · rename_i rest hrest
    rw [pad, List.cons_append] at hrest
    exact absurd (List.cons.inj hrest).1 (digitChar_ne (by decide) _)
  · simp [parseDigits_pad_of_lt t.month_lt, eatDash, hd]

theorem parseFraction_millis {n : Nat} (h : n < 10 ^ 3) :
    parseFraction ('.' :: pad 3 n) = some (n * 1000) := by
  have hall : (pad 3 n).all isDigit = true := by
    simp only [List.all_eq_true]
    intro c hc
    have := toNat_of_mem_pad hc
    simp [isDigit, digit?, this]
  have hne : pad 3 n ≠ [] := by simp [pad]
  have htake : (pad 3 n).take 6 = pad 3 n := List.take_of_length_le (by simp)
  have hp := parseDigits_pad_of_lt h []
  rw [List.append_nil] at hp
  simp [parseFraction, hall, hne, htake, hp]

theorem parseClock_clockChars (t : DateTime) :
    parseClock (clockChars t) = some (t.hour, t.minute, t.second, t.truncate.microsecond) := by
  obtain ⟨hh, hm, hs, hu⟩ := t.time_range
  have hf : t.microsecond / 1000 < 10 ^ 3 := by omega
  simp [parseClock, clockChars, parseDigits_pad_of_lt (show t.hour < 10 ^ 2 by omega),
    parseDigits_pad_of_lt (show t.minute < 10 ^ 2 by omega),
    parseDigits_pad_of_lt (show t.second < 10 ^ 2 by omega), parseFraction_millis hf,
    DateTime.truncate]

/-- A character that is neither a digit nor one of the separators does not occur. -/
theorem notMem_dateChars {c : Char} (hc : c.toNat < 48 ∨ 57 < c.toNat) (hs : c ≠ '-')
    (t : DateTime) : c ∉ dateChars t := by
  simp [dateChars, notMem_pad hc, hs]

theorem notMem_clockChars {c : Char} (hc : c.toNat < 48 ∨ 57 < c.toNat) (h1 : c ≠ ':')
    (h2 : c ≠ '.') (t : DateTime) : c ∉ clockChars t := by
  simp [clockChars, notMem_pad hc, h1, h2]

theorem parseTime_utc (t : DateTime) :
    parseTime (clockChars t ++ "+00:00".toList) =
      some ((t.hour, t.minute, t.second, t.truncate.microsecond), some 0) := by
  have hspan : (clockChars t ++ "+00:00".toList).span (fun c => !isTzMark c) =
      (clockChars t, "+00:00".toList) := by
    have hclock : ∀ c ∈ clockChars t, (!isTzMark c) = true := by
      intro c hc
      have hp : c ≠ '+' := fun e => notMem_clockChars (by decide) (by decide) (by decide) t (e ▸ hc)
      have hm : c ≠ '-' := fun e => notMem_clockChars (by decide) (by decide) (by decide) t (e ▸ hc)
      have hz : c ≠ 'Z' := fun e => notMem_clockChars (by decide) (by decide) (by decide) t (e ▸ hc)
      simp [isTzMark, hp, hm, hz]
    rw [List.span_eq_takeWhile_dropWhile, List.takeWhile_append_of_pos hclock,
      List.dropWhile_append_of_pos hclock]
    simp [isTzMark]
  have hoff : parseOffset '+' "00:00".toList = some 0 := by decide
  unfold parseTime
  rw [hspan]
  change (do let clock ← parseClock (clockChars t)
             let offset ← parseOffset '+' "00:00".toList
             some (clock, some offset)) = _
  rw [parseClock_clockChars, hoff]
  rfl

/-- `fromisoformat` reads back, to the millisecond, what `isoformat` prints in UTC. -/
theorem fromisoformat_utc (t : DateTime) (utc : t.utcoffset = some 0) :
    fromisoformatChars (dateChars t ++ 'T' :: (clockChars t ++ "+00:00".toList)) =
      some t.truncate := by
  have hlen : (dateChars t).length = 10 := by simp [dateChars]
  have htake : (dateChars t ++ 'T' :: (clockChars t ++ "+00:00".toList)).take 10 = dateChars t :=
    List.take_left' hlen
  have hdrop : (dateChars t ++ 'T' :: (clockChars t ++ "+00:00".toList)).drop 10 =
      'T' :: (clockChars t ++ "+00:00".toList) := List.drop_left' hlen
  have hsep :
      findSeparator (dateChars t ++ 'T' :: (clockChars t ++ "+00:00".toList)) = some 10 := by
    have hW : digitChar (t.month / 10) ≠ 'W' := digitChar_ne (by decide) _
    simp [findSeparator, dateChars, pad, hW]
  have hhour : t.hour ≠ 24 := by
    have := t.time_range.1
    omega
  have hself := t.truncate.mk?_self
  rw [DateTime.truncate_utcoffset, utc] at hself
  unfold fromisoformatChars
  rw [if_neg (by rw [List.length_append, hlen]; omega), hsep]
  simp only [Option.bind_eq_bind, Option.bind_some, htake, parseDate_dateChars, hdrop,
    parseTime_utc, if_neg hhour]
  exact hself

/-- The producer's `Z` notation and the consumer's `+00:00` notation meet: rewriting the one
into the other and parsing gives the instant back to the millisecond. -/
theorem fromisoformat_isoformat (t : DateTime) (utc : t.utcoffset = some 0) :
    fromisoformat (PyStr.replace (PyStr.replace (isoformatMilliseconds t) "+00:00" "Z") "Z"
      "+00:00") = some t.truncate := by
  have hoff : offsetChars (some 0) = "+00:00".toList := by decide
  have hplus : '+' ∉ dateChars t ++ 'T' :: clockChars t := by
    simp [notMem_dateChars (c := '+') (by decide) (by decide),
      notMem_clockChars (c := '+') (by decide) (by decide) (by decide)]
  have hz : 'Z' ∉ dateChars t ++ 'T' :: clockChars t := by
    simp [notMem_dateChars (c := 'Z') (by decide) (by decide),
      notMem_clockChars (c := 'Z') (by decide) (by decide) (by decide)]
  have h1 : PyStr.replace (isoformatMilliseconds t) "+00:00" "Z" =
      String.ofList (dateChars t ++ 'T' :: clockChars t ++ ['Z']) := by
    simp only [PyStr.replace, isoformatMilliseconds, utc, hoff, String.toList_ofList]
    exact congrArg String.ofList (replaceChars_suffix '+' _ _ _ hplus)
  have h2 :
      PyStr.replace (String.ofList (dateChars t ++ 'T' :: clockChars t ++ ['Z'])) "Z" "+00:00" =
      String.ofList (dateChars t ++ 'T' :: clockChars t ++ "+00:00".toList) := by
    simp only [PyStr.replace, String.toList_ofList]
    exact congrArg String.ofList (replaceChars_suffix 'Z' [] _ _ hz)
  rw [h1, h2, fromisoformat, String.toList_ofList, List.append_assoc, List.cons_append]
  exact fromisoformat_utc t utc

end PyDateTime
