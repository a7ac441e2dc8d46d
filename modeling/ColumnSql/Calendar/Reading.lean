import ColumnSql.Calendar.Date
import ColumnSql.Decimal.Numeral
import ColumnSql.Text.Blank
import ColumnSql.Text.Search

/-! Dates and times as they are read: `2024-03-09`, `2024-03-09 13:45:07.25`, `13:45`. Numbers may
have fewer digits than usual and blanks before them. -/

namespace ColumnSql.Calendar

open Text Decimal

def digits? (width : Nat) (s : List Char) : Option (Nat × List Char) :=
  let d := (s.take width).takeWhile Char.isDigit
  if d.isEmpty then none else some (digitsValue d, s.drop d.length)

def twoDigits? (s : List Char) : Option (Nat × List Char) := digits? 2 (trimStart s)

/-- a year of at most four digits, or of any number of them after a sign -/
def year? (s : List Char) : Option (Int × List Char) :=
  match trimStart s with
  | '-' :: r => (digits? r.length r).map fun x => (-(x.1 : Int), x.2)
  | '+' :: r => (digits? r.length r).map fun x => ((x.1 : Int), x.2)
  | r => (digits? 4 r).map fun x => ((x.1 : Int), x.2)

def date? (s : List Char) : Option (Date × List Char) := do
  let (year, s) ← year? s
  let (month, s) ← twoDigits? (← after? ['-'] s)
  let (day, s) ← twoDigits? (← after? ['-'] s)
  return (← Date.of? year month day, s)

/-- nothing, or a point and digits, of which nine count -/
def fraction? : List Char → Option (Nat × List Char)
  | '.' :: s => do
    let (n, rest) ← digits? 9 s
    return (n * Nat.pow 10 (9 - (s.length - rest.length)), rest.dropWhile Char.isDigit)
  | s => some (0, s)

/-- the second 60 is the leap second after 59 -/
def timeOf? (hour minute second nanos : Nat) : Option Time :=
  if second = 60 then Time.of? hour minute 59 (nanos + 1000000000)
  else if nanos < 1000000000 then Time.of? hour minute second nanos
  else none

def hourMinute? (s : List Char) : Option (Nat × Nat × List Char) := do
  let (hour, s) ← twoDigits? s
  let (minute, s) ← twoDigits? (← after? [':'] s)
  return (hour, minute, s)

def longTime? (s : List Char) : Option (Time × List Char) := do
  let (hour, minute, s) ← hourMinute? s
  let (second, s) ← twoDigits? (← after? [':'] s)
  let (nanos, s) ← fraction? s
  return (← timeOf? hour minute second nanos, s)

def shortTime? (s : List Char) : Option (Time × List Char) := do
  let (hour, minute, s) ← hourMinute? s
  return (← Time.of? hour minute 0 0, s)

def whole? {α : Type} (read : List Char → Option (α × List Char)) (s : List Char) : Option α :=
  match read s with
  | some (x, []) => some x
  | _ => none

def both? (middle : List Char → Option (List Char)) (time? : List Char → Option (Time × List Char))
    (s : List Char) : Option (DateTime × List Char) := do
  let (date, s) ← date? s
  let (time, s) ← time? (← middle s)
  return (⟨date, time⟩, s)

inductive Moment
  | date (d : Date)
  | time (t : Time)
  | dateTime (t : DateTime)
deriving DecidableEq

/-- the moment that `text` names, in the first of the forms that fits -/
def moment? (text : String) : Option Moment :=
  let s := trim text.toList
  let blanks := fun s => some (trimStart s)
  (whole? date? s).map Moment.date
    <|> (whole? (both? blanks longTime?) s).map Moment.dateTime
    <|> (whole? (both? (after? ['T']) longTime?) s).map Moment.dateTime
    <|> (whole? (both? blanks shortTime?) s).map Moment.dateTime
    <|> (whole? longTime? s).map Moment.time
    <|> (whole? shortTime? s).map Moment.time

end ColumnSql.Calendar
