/-! The binary64 number nearest to a fraction or to a decimal, a tie going to the even significand. -/

namespace ColumnSql.Decimal

/-- `a / b` to the nearest integer, a half to the even one -/
def roundDiv (a b : Nat) : Nat :=
  if b < 2 * (a % b) ∨ (2 * (a % b) = b ∧ a / b % 2 = 1) then a / b + 1 else a / b

/-- the exponent of two of the leading bit of `a / b` -/
def leadingBit (a b : Nat) : Int :=
  let e : Int := (a.log2 : Int) - b.log2
  if b <<< e.toNat ≤ a <<< (-e).toNat then e else e - 1

def infinityBits : Nat := 0x7ff0000000000000

/-- The bits of `a / b`. Significands have 53 bits, and the unit of the last is never below
`2 ^ (-1074)`. -/
def nearestBits (a b : Nat) : Nat :=
  if a = 0 then 0
  else
    let e := max (leadingBit a b - 52) (-1074)
    let m := roundDiv (a <<< (-e).toNat) (b <<< e.toNat)
    min (m + (e + 1074).toNat <<< 52) infinityBits

def nearest (a b : Nat) : Float := Float.ofBits (nearestBits a b).toUInt64

def digitCount (n : Nat) : Nat := (Nat.toDigits 10 n).length

/-- `m * 10 ^ e`; out of the range of the exponents it is infinity or zero. -/
def ofDecimal (m : Nat) (e : Int) : Float :=
  let size := e + digitCount m
  if m = 0 ∨ size < -330 then Float.ofBits 0
  else if 310 < size then Float.ofBits infinityBits.toUInt64
  else nearest (m * Nat.pow 10 e.toNat) (Nat.pow 10 (-e).toNat)

end ColumnSql.Decimal
