/-! Dates of the Gregorian calendar, times of day and their pairs. -/

namespace ColumnSql.Calendar

/-- the rule of the Gregorian calendar, for the years before it as well -/
def isLeap (year : Int) : Bool := year % 4 = 0 && (year % 100 != 0 || year % 400 = 0)

def daysIn (year : Int) (month : Nat) : Nat :=
  if month = 2 then if isLeap year then 29 else 28
  else if month = 4 ∨ month = 6 ∨ month = 9 ∨ month = 11 then 30
  else 31

structure Date where
  year : Int
  month : Nat
  day : Nat
  year_mem : -262143 ≤ year ∧ year ≤ 262142
  month_mem : 1 ≤ month ∧ month ≤ 12
  day_mem : 1 ≤ day ∧ day ≤ daysIn year month
deriving DecidableEq

def Date.of? (year : Int) (month day : Nat) : Option Date :=
  if h : (-262143 ≤ year ∧ year ≤ 262142) ∧ (1 ≤ month ∧ month ≤ 12) ∧
      1 ≤ day ∧ day ≤ daysIn year month then
    some ⟨year, month, day, h.1, h.2.1, h.2.2⟩
  else none

/-- the first day of the calendar, for times without a day -/
def Date.first : Date := ⟨-262143, 1, 1, by decide, by decide, by decide⟩

theorem Date.of?_eq_some (d : Date) : Date.of? d.year d.month d.day = some d := by
  simp only [Date.of?, d.year_mem, d.month_mem, d.day_mem, and_self, dite_true]

/-- In a leap second `second` stays 59 and `nanos` goes on from `10 ^ 9`. -/
structure Time where
  hour : Nat
  minute : Nat
  second : Nat
  nanos : Nat
  hour_lt : hour < 24
  minute_lt : minute < 60
  second_lt : second < 60
  nanos_lt : nanos < if second = 59 then 2000000000 else 1000000000
deriving DecidableEq

def Time.of? (hour minute second nanos : Nat) : Option Time :=
  if h : hour < 24 ∧ minute < 60 ∧ second < 60 ∧
      nanos < if second = 59 then 2000000000 else 1000000000 then
    some ⟨hour, minute, second, nanos, h.1, h.2.1, h.2.2.1, h.2.2.2⟩
  else none

def Time.midnight : Time := ⟨0, 0, 0, 0, by decide, by decide, by decide, by decide⟩

theorem Time.of?_eq_some (t : Time) : Time.of? t.hour t.minute t.second t.nanos = some t := by
  have := t.nanos_lt
  simp only [Time.of?, t.hour_lt, t.minute_lt, t.second_lt, this, and_self, dite_true]

structure DateTime where
  date : Date
  time : Time
deriving DecidableEq

def Date.ordinal (d : Date) : Nat :=
  (List.range (d.month - 1)).foldl (fun n m => n + daysIn d.year (m + 1)) d.day

/-- days from the first of January of the year 1 to the day before `year` -/
def daysBefore (year : Int) : Int :=
  let y := year - 1
  365 * y + y / 4 - y / 100 + y / 400

def Date.dayNumber (d : Date) : Int := daysBefore d.year + d.ordinal - 719163

/-- days since Monday of the day that follows `n` days of the era -/
def weekdayAfter (n : Int) : Nat := (n % 7).toNat

def Date.weekday (d : Date) : Nat := weekdayAfter (daysBefore d.year + d.ordinal - 1)

/-- Years that start on a Thursday have 53 weeks, and leap years that start on a Wednesday. -/
def weeksIn (year : Int) : Nat :=
  let first := weekdayAfter (daysBefore year)
  if first = 3 ∨ (first = 2 ∧ isLeap year) then 53 else 52

/-- The year and number of the week of `d`. A week belongs to the year of its Thursday. -/
def Date.isoWeek (d : Date) : Int × Nat :=
  let w := (d.ordinal + 9 - d.weekday) / 7
  if w = 0 then (d.year - 1, weeksIn (d.year - 1))
  else if weeksIn d.year < w then (d.year + 1, 1)
  else (d.year, w)

def DateTime.timestamp (t : DateTime) : Int :=
  t.date.dayNumber * 86400 + (t.time.hour * 3600 + t.time.minute * 60 + t.time.second : Nat)

end ColumnSql.Calendar
