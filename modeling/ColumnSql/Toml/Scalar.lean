import ColumnSql.Calendar.Date
import ColumnSql.Decimal.Nearest
import ColumnSql.Decimal.Numeral
import ColumnSql.Decimal.Shortest
import ColumnSql.Text.Search
import ColumnSql.Toml.Basic

/-! The numbers, dates and truth values of TOML. -/

namespace ColumnSql.Toml

open Decimal

/-- digits with single underscores between them -/
def grouped (isDigit : Char → Bool) : Bool → List Char → Bool
  | after, [] => after
  | after, c :: s =>
    if c = '_' then after && grouped isDigit false s else isDigit c && grouped isDigit true s

def isHexDigit (c : Char) : Bool := c.isDigit || ('a' ≤ c && c ≤ 'f') || ('A' ≤ c && c ≤ 'F')

def hexValue (c : Char) : Nat :=
  if c.isDigit then c.toNat - 48 else if 'a' ≤ c then c.toNat - 87 else c.toNat - 55

def valueIn (base : Nat) (s : List Char) : Nat :=
  (s.filter (· ≠ '_')).foldl (fun n c => base * n + hexValue c) 0

def isWhole (s : List Char) : Bool :=
  grouped Char.isDigit false s && (s.head? ≠ some '0' || s.length = 1)

/-- an integer that 128 bits hold, with or without a sign -/
def bounded? (n : Int) : Option Value :=
  if -(1 <<< 127 : Nat) ≤ n ∧ n < (1 <<< 128 : Nat) then some (.integer n) else none

def integer? : List Char → Option Value
  | '0' :: 'x' :: s => if grouped isHexDigit false s then bounded? (valueIn 16 s) else none
  | '0' :: 'o' :: s =>
    if grouped (fun c => '0' ≤ c && c ≤ '7') false s then bounded? (valueIn 8 s) else none
  | '0' :: 'b' :: s =>
    if grouped (fun c => c = '0' || c = '1') false s then bounded? (valueIn 2 s) else none
  | '-' :: s => if isWhole s then bounded? (-(valueIn 10 s : Int)) else none
  | '+' :: s => if isWhole s then bounded? (valueIn 10 s) else none
  | s => if isWhole s then bounded? (valueIn 10 s) else none

def exponent? (s : List Char) : Option Int :=
  if !grouped Char.isDigit false (unsigned s) then none
  else if s.head? = some '-' then some (-(valueIn 10 (unsigned s) : Int))
  else some (valueIn 10 (unsigned s))

def floatTail? : List Char → Option (List Char × Int)
  | '.' :: s =>
    let digits := s.takeWhile fun c => c.isDigit || c = '_'
    if !grouped Char.isDigit false digits then none
    else
      match s.drop digits.length with
      | [] => some (digits, 0)
      | c :: r => if c = 'e' ∨ c = 'E' then (exponent? r).map (digits, ·) else none
  | c :: r => if c = 'e' ∨ c = 'E' then (exponent? r).map ([], ·) else none
  | [] => none

/-- a floating point number that is finite unless it is written as infinity -/
def float? (s : List Char) : Option Value := do
  let t := unsigned s
  if t = ['i', 'n', 'f'] ∨ t = ['n', 'a', 'n'] then return .float (String.ofList s)
  let whole := t.takeWhile fun c => c.isDigit || c = '_'
  if !isWhole whole then none
  let (fraction, e) ← floatTail? (t.drop whole.length)
  let places := (fraction.filter (· ≠ '_')).length
  if isFinite (ofDecimal (valueIn 10 (whole ++ fraction)) (e - places)) then
    some (.float (String.ofList s))
  else none

def two? (limit : Nat) : List Char → Option (List Char × List Char)
  | a :: b :: s =>
    if a.isDigit && b.isDigit && digitsValue [a, b] < limit then some ([a, b], s) else none
  | _ => none

def date? : List Char → Option (List Char × List Char)
  | a :: b :: c :: d :: '-' :: s => do
    if !([a, b, c, d].all Char.isDigit) then none
    let (month, s) ← two? 13 s
    let s ← Text.after? ['-'] s
    let (day, s) ← two? 32 s
    let _ ← Calendar.Date.of? (digitsValue [a, b, c, d]) (digitsValue month) (digitsValue day)
    return ([a, b, c, d, '-'] ++ month ++ '-' :: day, s)
  | _ => none

/-- The text of a fraction: nine of its digits count, and zeros at its end are not written, nor is a
point without digits. -/
def fractionText (digits : List Char) : List Char :=
  match ((digits.take 9).reverse.dropWhile (· = '0')).reverse with
  | [] => []
  | d => '.' :: d

def fraction? : List Char → Option (List Char × List Char)
  | '.' :: s =>
    let digits := s.takeWhile Char.isDigit
    if digits.isEmpty then none else some (fractionText digits, s.drop digits.length)
  | s => some ([], s)

/-- the seconds, which are written also where they are left out, and their fraction -/
def seconds? : List Char → Option (List Char × List Char)
  | ':' :: s => do
    let (second, s) ← two? 61 s
    let (fraction, s) ← fraction? s
    return (second ++ fraction, s)
  | s => some (['0', '0'], s)

def time? (s : List Char) : Option (List Char × List Char) := do
  let (hour, s) ← two? 24 s
  let (minute, s) ← two? 60 (← Text.after? [':'] s)
  let (second, s) ← seconds? s
  return (hour ++ ':' :: minute ++ ':' :: second, s)

/-- the offset of hours and minutes after a sign; none has a minus sign -/
def signedOffset? (sign : Char) (s : List Char) : Option (List Char) := do
  let (hour, s) ← two? 24 s
  let (minute, s) ← two? 60 (← Text.after? [':'] s)
  if !s.isEmpty then none
  let sign := if digitsValue (hour ++ minute) = 0 then '+' else sign
  return sign :: hour ++ ':' :: minute

def offset? : List Char → Option (List Char)
  | [] => some []
  | c :: s =>
    if c = 'Z' ∨ c = 'z' then if s.isEmpty then some ['Z'] else none
    else if c = '+' ∨ c = '-' then signedOffset? c s
    else none

/-- the one form in which a date, a time of day or both are written -/
def dateTimeText? (s : List Char) : Option (List Char) :=
  match date? s with
  | some (date, []) => some date
  | some (date, c :: r) =>
    if c = 'T' ∨ c = 't' ∨ c = ' ' then do
      let (time, r) ← time? r
      return date ++ 'T' :: time ++ (← offset? r)
    else none
  | none =>
    match time? s with
    | some (time, []) => some time
    | _ => none

def dateTime? (s : List Char) : Option Value :=
  (dateTimeText? s).map fun text => .dateTime (String.ofList text)

def bool? (s : List Char) : Option Value :=
  if s = ['t', 'r', 'u', 'e'] then some (.bool true)
  else if s = ['f', 'a', 'l', 's', 'e'] then some (.bool false)
  else none

def isScalarChar (c : Char) : Bool :=
  c.isAlphanum || c = '_' || c = '+' || c = '-' || c = '.' || c = ':'

/-- The characters of a scalar, and what follows. After a date there may be a space and a time. -/
def scalarText (s : List Char) : List Char × List Char :=
  let word := s.takeWhile isScalarChar
  match date? word, s.drop word.length with
  | some (_, []), ' ' :: c :: r =>
    if c.isDigit then
      (word ++ ' ' :: (c :: r).takeWhile isScalarChar, (c :: r).dropWhile isScalarChar)
    else (word, ' ' :: c :: r)
  | _, rest => (word, rest)

def scalar? (s : List Char) : Option (Value × List Char) :=
  let x := scalarText s
  (bool? x.1 <|> integer? x.1 <|> float? x.1 <|> dateTime? x.1).map fun v => (v, x.2)

end ColumnSql.Toml
