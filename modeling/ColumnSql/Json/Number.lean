import ColumnSql.Decimal.Nearest
import ColumnSql.Decimal.Numeral
import ColumnSql.Decimal.Shortest
import ColumnSql.Json.Basic

/-! The numbers of JSON. Those without a point and an exponent are integers where 64 bits hold them.
Others are a significand of 64 bits, of which further digits are dropped, times a power of ten; both
are rounded to binary64 before they are multiplied or divided. -/

namespace ColumnSql.Json.Number

open Decimal

structure Written where
  negative : Bool
  whole : List Char
  fraction : List Char
  exponentNegative : Bool
  exponent : List Char

def someDigits? (s : List Char) : Option (List Char × List Char) :=
  match s.takeWhile Char.isDigit with
  | [] => none
  | d => some (d, s.dropWhile Char.isDigit)

def fraction? : List Char → Option (List Char × List Char)
  | '.' :: s => someDigits? s
  | s => some ([], s)

def exponent? : List Char → Option (Bool × List Char × List Char)
  | 'e' :: '-' :: s | 'E' :: '-' :: s => (someDigits? s).map fun x => (true, x)
  | 'e' :: '+' :: s | 'E' :: '+' :: s => (someDigits? s).map fun x => (false, x)
  | 'e' :: s | 'E' :: s => (someDigits? s).map fun x => (false, x)
  | s => some (false, [], s)

/-- the parts of a number, which has no zero before another digit -/
def written? (s : List Char) : Option Written := do
  let (negative, s) := match s with
    | '-' :: r => (true, r)
    | r => (false, r)
  let (whole, s) ← someDigits? s
  if whole.head? = some '0' ∧ 1 < whole.length then none
  let (fraction, s) ← fraction? s
  let (exponentNegative, exponent, s) ← exponent? s
  if s.isEmpty then some ⟨negative, whole, fraction, exponentNegative, exponent⟩ else none

def wordSize : Nat := UInt64.size

/-- The significand that the digits go on with `n`, and how many of them it takes. It ends where a
digit would make it too large for a word. -/
def significand (n : Nat) : List Char → Nat × Nat
  | [] => (n, 0)
  | c :: s =>
    let m := 10 * n + (c.toNat - 48)
    if m < wordSize then
      let x := significand m s
      (x.1, x.2 + 1)
    else (n, 0)

def powerOfTen (k : Nat) : Float := ofDecimal 1 k

/-- `x / 10 ^ k`, in at most `n` divisions by `10 ^ 308` or less -/
def divide : Nat → Float → Nat → Float
  | 0, x, _ => x
  | n + 1, x, k =>
    if k ≤ 308 then x / powerOfTen k else divide n (x / powerOfTen 308) (k - 308)

def scale? (x : Float) (e : Int) : Option Float :=
  if isZero x then some x
  else if e < 0 then some (divide 3 x e.natAbs)
  else if 308 < e then none
  else
    let y := x * powerOfTen e.toNat
    if isFinite y then some y else none

def signed (negative : Bool) (x : Float) : Float := if negative then -x else x

/-- the significand with its power of ten, for a number that is written with one or is long -/
def float? (w : Written) : Option Float :=
  let whole := significand 0 w.whole
  let all := significand whole.1 w.fraction
  let own : Int := (w.whole.length - whole.2 : Nat) - (all.2 : Int)
  let e := digitsValue w.exponent
  if 2147483647 < e then
    if all.1 ≠ 0 ∧ !w.exponentNegative then none else some (signed w.negative 0)
  else
    (scale? (nearest all.1 1) (if w.exponentNegative then own - e else own + e)).map
      (signed w.negative)

def value? (w : Written) : Option Json :=
  let n := digitsValue w.whole
  if w.fraction.isEmpty ∧ w.exponent.isEmpty ∧ n < wordSize then
    if !w.negative then some (.int n)
    else if 0 < n ∧ 2 * n ≤ wordSize then some (.int (-n))
    else some (.float (-nearest n 1))
  else (float? w).map .float

def read? (s : List Char) : Option Json := (written? s).bind value?

end ColumnSql.Json.Number
