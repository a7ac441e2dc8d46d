import ColumnSql.DataType
import ColumnSql.Decimal.Numeral
import ColumnSql.Text.Digit
import ColumnSql.Text.Search

/-! Templates as pieces: characters that stand for themselves, and placeholders for parameters. -/

namespace ColumnSql

open Text Decimal

namespace Template

/-- `{0}` or `{0:VARCHAR}` -/
structure Placeholder where
  /-- the number of the parameter; none if it is not one that a machine word holds -/
  index : Option Nat
  hint : Option DataType
deriving DecidableEq

inductive Piece
  | verbatim (c : Char)
  | parameter (p : Placeholder)
deriving DecidableEq

/-- the number of a parameter; only ASCII digits make one, though others make a placeholder -/
def index? (digits : List Char) : Option Nat :=
  if digits.all Char.isDigit ∧ digitsValue digits < UInt64.size then some (digitsValue digits)
  else none

def isNameChar (c : Char) : Bool := c.isAlpha || c = '_'

def hint? : List Char → Option (Option DataType × List Char)
  | '\x7d' :: s => some (none, s)
  | ':' :: s =>
    match s.takeWhile isNameChar, s.dropWhile isNameChar with
    | [], _ => none
    | name, '\x7d' :: rest => some (DataType.ofName? (String.ofList name), rest)
    | _, _ => none
  | _ => none

def inside? (s : List Char) : Option (Placeholder × List Char) :=
  match s.takeWhile isDigit with
  | [] => none
  | digits => (hint? (s.dropWhile isDigit)).map fun x => (⟨index? digits, x.1⟩, x.2)

/-- the pieces of a template after `n` characters to be passed over -/
def piecesFrom : Nat → List Char → List Piece
  | _, [] => []
  | n + 1, _ :: s => piecesFrom n s
  | 0, c :: s =>
    match if c = '\x7b' then inside? s else none with
    | some (p, rest) => .parameter p :: piecesFrom (s.length - rest.length) s
    | none => .verbatim c :: piecesFrom 0 s

/-- the pieces of a template, of which the leftmost are found first -/
def pieces (s : List Char) : List Piece := piecesFrom 0 s

def Piece.text (arg : Placeholder → String) : Piece → List Char
  | verbatim c => [c]
  | parameter p => (arg p).toList

/-- the template with `arg` in its placeholders, in one pass -/
def substitute (arg : Placeholder → String) (s : List Char) : String :=
  String.ofList ((pieces s).flatMap (Piece.text arg))

/-- the parts around the place of the operand, the whole template if it has none -/
def parts (s : String) : List Char × List Char :=
  (splitFirst ['?'] s.toList).getD (s.toList, [])

theorem pieces_nil : pieces [] = [] := rfl

theorem pieces_cons_of_ne {c : Char} (h : c ≠ '\x7b') (s : List Char) :
    pieces (c :: s) = .verbatim c :: pieces s := by
  simp [pieces, piecesFrom, h]

theorem toList_substitute (arg : Placeholder → String) (s : List Char) :
    (substitute arg s).toList = (pieces s).flatMap (Piece.text arg) := by
  simp [substitute]

end Template

end ColumnSql
