import ColumnSql.Decimal.Nearest

/-! The shortest decimal that reads back as a given binary64 number.

A finite number is `m * 2 ^ q`, and the reals nearer to it than to its neighbours form an interval,
ends included if `m` is even. On coarser to finer decimal grids the two grid points around the number
are tried; the first grid with a point in the interval has the fewest digits. -/

namespace ColumnSql.Decimal

def isNegative (x : Float) : Bool := x.toBits >>> 63 == 1

def exponentField (x : Float) : Nat := (x.toBits >>> 52 &&& 0x7ff).toNat

def fractionField (x : Float) : Nat := (x.toBits &&& 0xfffffffffffff).toNat

def isFinite (x : Float) : Bool := exponentField x != 0x7ff

def isNaN (x : Float) : Bool := exponentField x == 0x7ff && fractionField x != 0

def isZero (x : Float) : Bool := exponentField x == 0 && fractionField x == 0

/-- the reals from `low * 2 ^ unit` to `high * 2 ^ unit`, around `mid * 2 ^ unit` -/
structure Around where
  low : Nat
  mid : Nat
  high : Nat
  unit : Int
  closed : Bool

def around (x : Float) : Around :=
  let e := exponentField x
  let f := fractionField x
  let m := if e = 0 then f else (1 <<< 52) + f
  let q : Int := if e = 0 then -1074 else (e : Int) - 1075
  let below := if f = 0 ∧ 1 < e then 1 else 2
  { low := 4 * m - below, mid := 4 * m, high := 4 * m + 2, unit := q - 2, closed := m % 2 == 0 }

/-- `w * 2 ^ p` and `c * 10 ^ k` in one unit -/
def sides (w : Nat) (p : Int) (c : Nat) (k : Int) : Nat × Nat :=
  ((w * Nat.pow 10 (-k).toNat) <<< p.toNat, (c * Nat.pow 10 k.toNat) <<< (-p).toNat)

def Around.has (i : Around) (c : Nat) (k : Int) : Bool :=
  let l := sides i.low i.unit c k
  let h := sides i.high i.unit c k
  if i.closed then l.1 ≤ l.2 && h.2 ≤ h.1 else l.1 < l.2 && h.2 < h.1

/-- the point of the grid of `10 ^ k` in the interval that is nearest to the middle -/
def Around.point? (i : Around) (k : Int) : Option Nat :=
  let s := sides i.mid i.unit 1 k
  let c := s.1 / s.2
  let near := roundDiv s.1 s.2
  if i.has near k then some near
  else if i.has c k then some c
  else if i.has (c + 1) k then some (c + 1)
  else none

def Around.search (i : Around) : Nat → Int → Nat × Int
  | 0, k => (0, k)
  | n + 1, k =>
    match i.point? k with
    | some c => (c, k)
    | none => i.search n (k - 1)

/-- `(c, k)` for the shortest decimal `c * 10 ^ k` of the size of `x`, which is finite and not zero -/
def shortest (x : Float) : Nat × Int :=
  let i := around x
  i.search 22 (((i.mid.log2 : Int) + i.unit) * 1233 / 4096 + 2)

end ColumnSql.Decimal
