import ColumnSql.Decimal.Shortest

/-! Floating point numbers as text: positional from `10 ^ (-5)` up to `10 ^ 16`, with an exponent
beyond. -/

namespace ColumnSql.Decimal

structure Layout where
  plus : Bool

def natText (n : Nat) : List Char := Nat.toDigits 10 n

def intText (n : Int) : List Char :=
  if n < 0 then '-' :: natText n.natAbs else natText n.natAbs

/-- the significant digits `d`, of which `point` stand before the decimal point -/
def Layout.positional (d : List Char) (point : Int) : List Char :=
  if point ≤ 0 then ['0', '.'] ++ List.replicate (-point).toNat '0' ++ d
  else if (d.length : Int) ≤ point then
    d ++ List.replicate (point - d.length).toNat '0' ++ ['.', '0']
  else d.take point.toNat ++ '.' :: d.drop point.toNat

def Layout.scientific (l : Layout) (d : List Char) (point : Int) : List Char :=
  let e := point - 1
  let mark := if l.plus && 0 ≤ e then ['e', '+'] else ['e']
  (if d.length ≤ 1 then d else d.take 1 ++ '.' :: d.drop 1) ++ mark ++ intText e

def Layout.digits (l : Layout) (c : Nat) (k : Int) : List Char :=
  let d := natText c
  let point := k + d.length
  if -5 < point ∧ point ≤ 16 then Layout.positional d point else l.scientific d point

def Layout.text (l : Layout) (x : Float) : String :=
  if isNaN x then "NaN"
  else
    let size :=
      if !isFinite x then ['i', 'n', 'f']
      else if isZero x then ['0', '.', '0']
      else l.digits (shortest x).1 (shortest x).2
    String.ofList (if isNegative x then '-' :: size else size)

end ColumnSql.Decimal
