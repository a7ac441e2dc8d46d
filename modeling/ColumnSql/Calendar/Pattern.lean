import ColumnSql.Calendar.Date
import ColumnSql.Decimal.Layout

/-! Date patterns: a text in which `%` and a letter stand for a part of a date or time. -/

namespace ColumnSql.Calendar

open Decimal

inductive Pad
  | bare
  | zero
  | space

inductive Field
  | year
  | century
  | yearOfCentury
  | isoYear
  | isoYearOfCentury
  | quarter
  | month
  | day
  | ordinal
  | weekFromSunday
  | weekFromMonday
  | isoWeek
  | weekdayFromSunday
  | weekdayFromMonday
  | hour
  | hour12
  | minute
  | second
  | nanos
  | timestamp

inductive Item
  | char (c : Char)
  | field (f : Field) (pad : Pad)
  | monthName
  | shortMonthName
  | weekdayName
  | shortWeekdayName
  | half
  | lowerHalf
  /-- a point and the digits of the second's fraction that are needed, by threes; nothing if none -/
  | fraction
  | fractionDigits (count : Nat) (point : Bool)

def field? : Char → Option (Field × Pad)
  | 'Y' => some (.year, .zero)
  | 'C' => some (.century, .zero)
  | 'y' => some (.yearOfCentury, .zero)
  | 'G' => some (.isoYear, .zero)
  | 'g' => some (.isoYearOfCentury, .zero)
  | 'q' => some (.quarter, .bare)
  | 'm' => some (.month, .zero)
  | 'd' => some (.day, .zero)
  | 'e' => some (.day, .space)
  | 'j' => some (.ordinal, .zero)
  | 'U' => some (.weekFromSunday, .zero)
  | 'W' => some (.weekFromMonday, .zero)
  | 'V' => some (.isoWeek, .zero)
  | 'w' => some (.weekdayFromSunday, .bare)
  | 'u' => some (.weekdayFromMonday, .bare)
  | 'H' => some (.hour, .zero)
  | 'k' => some (.hour, .space)
  | 'I' => some (.hour12, .zero)
  | 'l' => some (.hour12, .space)
  | 'M' => some (.minute, .zero)
  | 'S' => some (.second, .zero)
  | 'f' => some (.nanos, .zero)
  | 's' => some (.timestamp, .bare)
  | _ => none

def between (c : Char) (items : List Item) : List Item := items.intersperse (.char c)

def monthDayYear : List Item :=
  between '/' [.field .month .zero, .field .day .zero, .field .yearOfCentury .zero]

def clock : List Item :=
  between ':' [.field .hour .zero, .field .minute .zero, .field .second .zero]

def letterItems? (c : Char) : Option (List Item) :=
  match c with
  | 'B' => some [.monthName]
  | 'b' | 'h' => some [.shortMonthName]
  | 'A' => some [.weekdayName]
  | 'a' => some [.shortWeekdayName]
  | 'p' => some [.half]
  | 'P' => some [.lowerHalf]
  | 'D' | 'x' => some monthDayYear
  | 'F' => some (between '-' [.field .year .zero, .field .month .zero, .field .day .zero])
  | 'v' => some (between '-' [.field .day .space, .shortMonthName, .field .year .zero])
  | 'R' => some (between ':' [.field .hour .zero, .field .minute .zero])
  | 'T' | 'X' => some clock
  | 'r' =>
    some (between ':' [.field .hour12 .zero, .field .minute .zero, .field .second .zero] ++
      [.char ' ', .half])
  | 'c' =>
    some ([.shortWeekdayName, .char ' ', .shortMonthName, .char ' ', .field .day .space, .char ' ']
      ++ clock ++ [.char ' ', .field .year .zero])
  | 'n' => some [.char '\n']
  | 't' => some [.char '\t']
  | '%' => some [.char '%']
  | c => (field? c).map fun x => [.field x.1 x.2]

/-- a number with a padding other than its own, and the characters used -/
def padded? (pad : Pad) (c : Char) : Option (List Item × Nat) :=
  (field? c).map fun x => ([.field x.1 pad], 2)

/-- what the text after a `%` stands for, and how many of its characters are used -/
def directive? : List Char → Option (List Item × Nat)
  | '.' :: 'f' :: _ => some ([.fraction], 2)
  | '.' :: '3' :: 'f' :: _ => some ([.fractionDigits 3 true], 3)
  | '.' :: '6' :: 'f' :: _ => some ([.fractionDigits 6 true], 3)
  | '.' :: '9' :: 'f' :: _ => some ([.fractionDigits 9 true], 3)
  | '3' :: 'f' :: _ => some ([.fractionDigits 3 false], 2)
  | '6' :: 'f' :: _ => some ([.fractionDigits 6 false], 2)
  | '9' :: 'f' :: _ => some ([.fractionDigits 9 false], 2)
  | '-' :: c :: _ => padded? .bare c
  | '_' :: c :: _ => padded? .space c
  | '0' :: c :: _ => padded? .zero c
  | c :: _ => (letterItems? c).map fun x => (x, 1)
  | [] => none

def itemsFrom : Nat → List Char → Option (List Item)
  | _, [] => some []
  | n + 1, _ :: s => itemsFrom n s
  | 0, c :: s =>
    if c = '%' then do
      let (items, n) ← directive? s
      return items ++ (← itemsFrom n s)
    else (itemsFrom 0 s).map (Item.char c :: ·)

def items? (pattern : String) : Option (List Item) := itemsFrom 0 pattern.toList

def fill (c : Char) (width : Nat) (s : List Char) : List Char :=
  List.replicate (width - s.length) c ++ s

/-- two digits; a number from 100 has the character that many places after `0` for its tens -/
def twoDigits (n : Nat) (pad : Pad) : List Char :=
  let ones := Char.ofNat (48 + n % 10)
  match n / 10, pad with
  | 0, .bare => [ones]
  | 0, .space => [' ', ones]
  | tens, _ => [Char.ofNat (48 + tens), ones]

def signOf (n : Int) (plus : Bool) : List Char := if n < 0 then ['-'] else if plus then ['+'] else []

def number (width : Nat) (n : Int) (pad : Pad) (plus : Bool) : List Char :=
  let sign := signOf n plus
  let digits := natText n.natAbs
  match pad with
  | .bare => sign ++ digits
  | .zero => sign ++ fill '0' (width - sign.length) digits
  | .space => fill ' ' width (sign ++ digits)

/-- Years that do not have four digits by themselves are filled up, and those outside of 0 to 9999
have a sign. -/
def yearText (y : Int) (pad : Pad) : List Char :=
  if 0 ≤ y ∧ y ≤ 9999 then number 4 y (if 1000 ≤ y then .bare else pad) false
  else number 5 y pad true

/-- the number of the week, which is 0 before the first day that starts one -/
def weekOf (d : Date) (sinceFirst : Nat) : Nat := (d.ordinal + 6 - sinceFirst) / 7

def Field.text (t : DateTime) (pad : Pad) : Field → List Char
  | .year => yearText t.date.year pad
  | .century => twoDigits (t.date.year / 100 % 256).toNat pad
  | .yearOfCentury => twoDigits (t.date.year % 100).toNat pad
  | .isoYear => yearText t.date.isoWeek.1 pad
  | .isoYearOfCentury => twoDigits (t.date.isoWeek.1 % 100).toNat pad
  | .quarter => natText ((t.date.month - 1) / 3 + 1)
  | .month => twoDigits t.date.month pad
  | .day => twoDigits t.date.day pad
  | .ordinal => number 3 t.date.ordinal pad false
  | .weekFromSunday => twoDigits (weekOf t.date ((t.date.weekday + 1) % 7)) pad
  | .weekFromMonday => twoDigits (weekOf t.date t.date.weekday) pad
  | .isoWeek => twoDigits t.date.isoWeek.2 pad
  | .weekdayFromSunday => natText ((t.date.weekday + 1) % 7)
  | .weekdayFromMonday => natText (t.date.weekday + 1)
  | .hour => twoDigits t.time.hour pad
  | .hour12 => twoDigits ((t.time.hour + 11) % 12 + 1) pad
  | .minute => twoDigits t.time.minute pad
  | .second => twoDigits (t.time.second + t.time.nanos / 1000000000) pad
  | .nanos => number 9 (t.time.nanos % 1000000000 : Nat) pad false
  | .timestamp => number 9 t.timestamp pad false

def monthNames : List String :=
  ["January", "February", "March", "April", "May", "June", "July", "August", "September", "October",
    "November", "December"]

def weekdayNames : List String :=
  ["Monday", "Tuesday", "Wednesday", "Thursday", "Friday", "Saturday", "Sunday"]

def Date.monthName (d : Date) : List Char := (monthNames.getD (d.month - 1) "").toList

def Date.weekdayName (d : Date) : List Char := (weekdayNames.getD d.weekday "").toList

def Time.fractionDigits (t : Time) (count : Nat) : List Char :=
  (fill '0' 9 (natText (t.nanos % 1000000000))).take count

/-- a point and as many digits of the fraction as are needed, by threes -/
def Time.fraction (t : Time) : List Char :=
  let n := t.nanos % 1000000000
  if n = 0 then []
  else '.' :: t.fractionDigits (if n % 1000000 = 0 then 3 else if n % 1000 = 0 then 6 else 9)

def Item.text (t : DateTime) : Item → List Char
  | .char c => [c]
  | .field f pad => f.text t pad
  | .monthName => t.date.monthName
  | .shortMonthName => t.date.monthName.take 3
  | .weekdayName => t.date.weekdayName
  | .shortWeekdayName => t.date.weekdayName.take 3
  | .half => if t.time.hour < 12 then ['A', 'M'] else ['P', 'M']
  | .lowerHalf => if t.time.hour < 12 then ['a', 'm'] else ['p', 'm']
  | .fraction => t.time.fraction
  | .fractionDigits count point => (if point then ['.'] else []) ++ t.time.fractionDigits count

def DateTime.format? (t : DateTime) (pattern : String) : Option String :=
  (items? pattern).map fun items => String.ofList (items.flatMap (Item.text t))

def itemsText (t : DateTime) (items : List Item) : String :=
  String.ofList (items.flatMap (Item.text t))

def Date.text (d : Date) : String :=
  itemsText ⟨d, .midnight⟩ (between '-' [.field .year .zero, .field .month .zero, .field .day .zero])

/-- the plain form of a time, without its fraction -/
def Time.text (t : Time) : String := itemsText ⟨.first, t⟩ clock

def DateTime.text (t : DateTime) : String := t.date.text ++ " " ++ t.time.text

end ColumnSql.Calendar
