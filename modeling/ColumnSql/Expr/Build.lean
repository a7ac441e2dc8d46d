import ColumnSql.Expr.Metadata
import ColumnSql.Text.Search

/-! Expressions as they are made. Each function takes, as its last argument, the place of what it
makes; parts that it makes as well have places of their own below that one. -/

namespace ColumnSql

/-- the place of the part that is made along with the expression at `place` -/
def Place.part (place : Place) : Place := 0 :: place

def Operand.ofInt (n : Int64) : Operand := .value (.int n)

def Operand.ofText (s : String) : Operand := .value (.text s)

namespace Expr

def column (c : Column) : Place → Expr := ofNode (.column c)

def constant (v : Value) (t : DataType) (place : Place) : Except ExprError Expr := do
  v.check t
  return ofNode (.constant v t) place

def constantFor (c : Expr) (v : Value) (place : Place) : Except ExprError Expr := do
  v.check c.dataType
  return ofNode (.constantFor c v) place

def countAll (place : Place) : Expr :=
  ofNode
    (.phrase (ofNode (.constant (.raw "*") .unknown) place.part) .count [] .unknown none
      (some .integer))
    place

/-- Constants on the right are literals of the type of the left. -/
def arith (e : Expr) (op : Operator) (v : Operand) (place : Place) : Except ExprError Expr := do
  v.check e.dataType
  return ofNode (.arith e op v) place

/-- a negative integer as the positive one, unless that is out of range -/
def negated? : Operand → Option Operand
  | .value (.int n) => if n < 0 ∧ n ≠ Int64.minValue then some (.value (.int (-n))) else none
  | _ => none

/-- `e + v`; a negative integer is subtracted instead -/
def plus (e : Expr) (v : Operand) (place : Place) : Except ExprError Expr :=
  match negated? v with
  | some w => e.arith .minus w place
  | none => e.arith .plus v place

def minus (e : Expr) (v : Operand) (place : Place) : Except ExprError Expr :=
  match negated? v with
  | some w => e.arith .plus w place
  | none => e.arith .minus v place

def multiply (e : Expr) (v : Operand) : Place → Except ExprError Expr := e.arith .multiply v

def divide (e : Expr) (v : Operand) : Place → Except ExprError Expr := e.arith .divide v

def append (e : Expr) (v : Operand) : Place → Expr := ofNode (.concat e v)

/-- whether putting something in front of an expression of type `t` concatenates -/
def joinsText (t : DataType) : Bool := t.isText || t = .unknown

def front (v : Operand) (t : DataType) (place : Place) : Except ExprError Expr :=
  match v with
  | .expr e => .ok e
  | .value v => constant v (if joinsText t then .varchar else t) place.part
  | .list _ => .error (.invalidArgument .value "list" .listInFront)

/-- `v` in front of `e`: concatenated if `e` is text, added otherwise -/
def prepend (e : Expr) (v : Operand) (place : Place) : Except ExprError Expr := do
  let left ← front v e.dataType place
  if joinsText e.dataType then return left.append (.expr e) place
  else left.arith .plus (.expr e) place

def concat (e : Expr) (others : List Expr) : Place → Expr := ofNode (.concatAll e none others)

def concatSeparated (e : Expr) (separator : String) (others : List Expr) : Place → Expr :=
  ofNode (.concatAll e (some separator) others)

def parenthesis (e : Expr) : Place → Expr := ofNode (.wrap e "(" ")" e.updateColumn false none)

/-- a function given by a template, which is cut at its first `?` -/
def function (e : Expr) (template : String) (update : Option Column) (aggregate : Bool)
    (t : Option DataType) (place : Place) : Except ExprError Expr :=
  match Text.splitFirst ['?'] template.toList with
  | some (before, after) =>
    .ok (ofNode (.wrap e (String.ofList before) (String.ofList after) update aggregate t) place)
  | none => .error (.missingPlaceholder template)

/-- a function of the dialect; constant parameters are checked against `type` -/
def phrase (e : Expr) (p : Phrase) (params : List Operand) (type : DataType)
    (update : Option Column) (t : Option DataType) (place : Place) : Except ExprError Expr := do
  if !p.takesOperand then throw (.invalidArgument .phrase p.key .notFunction)
  Operand.checkItems params type
  return ofNode (.phrase e p params type update t) place

/-- a function of the dialect that keeps the update column -/
def derived (e : Expr) (p : Phrase) (params : List Operand) (type : DataType) : Place → Expr :=
  ofNode (.phrase e p params type e.updateColumn none)

/-- a function of the dialect with a result that has no column behind it -/
def computed (e : Expr) (p : Phrase) (params : List Operand) (type : DataType)
    (t : Option DataType) : Place → Expr :=
  ofNode (.phrase e p params type none t)

def coalesce (e : Expr) (v : Operand) : Place → Except ExprError Expr :=
  e.phrase .coalesce [v] e.dataType e.updateColumn none

def modulo (e : Expr) (v : Operand) : Place → Except ExprError Expr :=
  e.phrase .modulo [v] .integer e.updateColumn none

def replace (e : Expr) (find replacement : Operand) : Place → Except ExprError Expr :=
  e.phrase .replace [find, replacement] .varchar e.updateColumn none

def indexOf (e : Expr) (find : Operand) : Place → Except ExprError Expr :=
  e.phrase .indexOf [find] .varchar e.updateColumn (some .integer)

def indexOfFrom (e : Expr) (find start : Operand) (place : Place) : Except ExprError Expr := do
  start.check .integer
  e.phrase .indexOfFrom [find, start] .varchar e.updateColumn (some .integer) place

def substring (e : Expr) (start : Int64) : Place → Expr :=
  e.derived .substring [.ofInt start] .integer

def substringWithLength (e : Expr) (start count : Int64) : Place → Expr :=
  e.derived .substringLength [.ofInt start, .ofInt count] .integer

def round (e : Expr) (decimals : Int64) : Place → Expr := e.derived .round [.ofInt decimals] .integer

def trunc (e : Expr) (decimals : Int64) : Place → Expr := e.derived .trunc [.ofInt decimals] .integer

def reverse (e : Expr) : Place → Expr := e.derived .reverse [] .varchar

def upper (e : Expr) : Place → Expr := e.derived .upper [] .varchar

def lower (e : Expr) : Place → Expr := e.derived .lower [] .varchar

def trim (e : Expr) : Place → Expr := e.derived .trim [] .varchar

def trimLeft (e : Expr) : Place → Expr := e.derived .trimLeft [] .varchar

def trimRight (e : Expr) : Place → Expr := e.derived .trimRight [] .varchar

def abs (e : Expr) : Place → Expr := e.derived .abs [] .unknown

def floor (e : Expr) : Place → Expr := e.derived .floor [] .unknown

def ceiling (e : Expr) : Place → Expr := e.derived .ceiling [] .unknown

/-- `e escape 'c'`, for patterns of LIKE -/
def escape (e : Expr) (c : Char) : Place → Expr :=
  e.computed .escape [.ofText (String.ofList [c])] .varchar (some .varchar)

def format (e : Expr) (pattern : String) : Place → Expr :=
  e.computed .format [.ofText pattern] .varchar (some .varchar)

def length (e : Expr) : Place → Expr := e.computed .length [] .unknown (some .integer)

def day (e : Expr) : Place → Expr := e.computed .day [] .unknown (some .integer)

def month (e : Expr) : Place → Expr := e.computed .month [] .unknown (some .integer)

def year (e : Expr) : Place → Expr := e.computed .year [] .unknown (some .integer)

def sum (e : Expr) : Place → Expr := e.computed .sum [] .unknown none

def min (e : Expr) : Place → Expr := e.computed .min [] .unknown none

def max (e : Expr) : Place → Expr := e.computed .max [] .unknown none

def avg (e : Expr) : Place → Expr := e.computed .avg [] .unknown none

def count (e : Expr) : Place → Expr := e.computed .count [] .unknown (some .integer)

def countDistinct (e : Expr) : Place → Expr :=
  e.computed .countDistinct [] .unknown (some .integer)

def convertTo (e : Expr) (dest : DataType) (format : Option String) : Place → Expr :=
  ofNode (.convert e dest format)

def call (before : String) (e : Expr) (after : String) (update : Option Column) : Place → Expr :=
  ofNode (.call before e after update)

def callTwo (before : String) (a : Expr) (between : String) (b : Expr) (after : String)
    (update : Option Column) : Place → Expr :=
  ofNode (.callTwo before a between b after update)

/-- one more case; for a key that is there it replaces the result in its place -/
def addBranch (key result : Operand) : List Branch → List Branch
  | [] => [.mk key result]
  | b :: r => if b.key.same key then .mk b.key result :: r else b :: addBranch key result r

def checkBranch (k t : DataType) (bs : List Branch) (x : Operand × Operand) :
    Except ExprError (List Branch) := do
  x.1.check k
  x.2.check t
  return addBranch x.1 x.2 bs

/-- Keys have the type of `e`, results the type `t`. -/
def decode (e : Expr) (pairs : List (Operand × Operand)) (otherwise : Option Operand)
    (t : DataType) (place : Place) : Except ExprError Expr := do
  let branches ← pairs.foldlM (checkBranch e.dataType t) []
  if let some v := otherwise then v.check t
  return ofNode (.decode e branches otherwise t) place

def named (e : Expr) (name : String) : Place → Expr := ofNode (.named e name)

end Expr

end ColumnSql
