import ColumnSql.Text.Digit

/-! The written forms of numbers: `[+-] digits`, and with a point or an exponent. -/

namespace ColumnSql.Decimal

open Text

def unsigned : List Char → List Char
  | [] => []
  | c :: s => if c = '+' ∨ c = '-' then s else c :: s

def isInteger (s : List Char) : Bool := !(unsigned s).isEmpty && (unsigned s).all isDigit

def isExponent : List Char → Bool
  | [] => true
  | c :: s => (c = 'e' || c = 'E') && isInteger s

/-- what may follow the digits `whole`: a point with digits on one of its sides, an exponent -/
def isDecimalTail (whole : List Char) : List Char → Bool
  | '.' :: s => (!whole.isEmpty || !(s.takeWhile isDigit).isEmpty) && isExponent (s.dropWhile isDigit)
  | s => !whole.isEmpty && isExponent s

/-- a sign or none, digits with a point or none, and an exponent or none -/
def isDecimal (s : List Char) : Bool :=
  isDecimalTail ((unsigned s).takeWhile isDigit) ((unsigned s).dropWhile isDigit)

def withoutPlus : List Char → List Char
  | '+' :: s => s
  | s => s

def digitsValue (s : List Char) : Nat := s.foldl (fun n c => 10 * n + (c.toNat - 48)) 0

end ColumnSql.Decimal
