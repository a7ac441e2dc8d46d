import ColumnSql.Value

/-! Column expressions. -/

namespace ColumnSql

structure Column where
  /-- the alias of the table -/
  table : Option String
  name : String
  dataType : DataType
deriving DecidableEq

def Column.fullName (c : Column) : String :=
  match c.table with
  | some t => t ++ "." ++ c.name
  | none => c.name

inductive Operator
  | plus
  | minus
  | multiply
  | divide
deriving DecidableEq

namespace Operator

def symbol : Operator → String
  | plus => "+"
  | minus => "-"
  | multiply => "*"
  | divide => "/"

def ofSymbol? : String → Option Operator
  | "+" => some plus
  | "-" => some minus
  | "*" => some multiply
  | "/" => some divide
  | _ => none

def ofText? (s : String) : Option Operator := ofSymbol? (Text.trimmed s)

theorem ofSymbol?_symbol (o : Operator) : ofSymbol? o.symbol = some o := by cases o <;> rfl

end Operator

/-- Where an expression was made. Places tell expressions apart that look the same. -/
abbrev Place := List Nat

/-- titles and hints by name, in order of the names -/
abbrev Attributes := List (String × String)

def Attributes.insert (key value : String) : Attributes → Attributes
  | [] => [(key, value)]
  | x :: r =>
    if key < x.1 then (key, value) :: x :: r
    else if key = x.1 then (key, value) :: r
    else x :: Attributes.insert key value r

mutual

/-- an expression: what it is, where it was made, and what is noted about it -/
inductive Expr
  | mk (place : Place) (attributes : Attributes) (node : Node)

inductive Node
  | column (c : Column)
  | constant (v : Value) (t : DataType)
  /-- a constant with the type and name of a column -/
  | constantFor (column : Expr) (v : Value)
  | arith (left : Expr) (op : Operator) (right : Operand)
  | concat (left : Expr) (right : Operand)
  | concatAll (first : Expr) (separator : Option String) (others : List Expr)
  /-- a function whose SQL before and after the operand is given -/
  | wrap (operand : Expr) (before after : String) (update : Option Column) (aggregate : Bool)
      (t : Option DataType)
  /-- a function of the dialect; parameters without a type in the template have `paramType` -/
  | phrase (operand : Expr) (p : Phrase) (params : List Operand) (paramType : DataType)
      (update : Option Column) (t : Option DataType)
  | convert (operand : Expr) (dest : DataType) (format : Option String)
  /-- SQL around one operand, whose type it has -/
  | call (before : String) (operand : Expr) (after : String) (update : Option Column)
  /-- SQL around two operands; it has the type of the first -/
  | callTwo (before : String) (first : Expr) (between : String) (second : Expr) (after : String)
      (update : Option Column)
  | decode (condition : Expr) (branches : List Branch) (otherwise : Option Operand) (t : DataType)
  | named (operand : Expr) (name : String)

/-- what stands beside an expression: another, a constant, or a list of such -/
inductive Operand
  | expr (e : Expr)
  | value (v : Value)
  | list (items : List Operand)

inductive Branch
  | mk (key result : Operand)

end

namespace Expr

def place : Expr → Place
  | mk p _ _ => p

def attributes : Expr → Attributes
  | mk _ a _ => a

def node : Expr → Node
  | mk _ _ n => n

def ofNode (n : Node) (place : Place) : Expr := mk place [] n

/-- whether `a` and `b` are one expression, attributes apart -/
def same (a b : Expr) : Bool := a.place == b.place

def withAttribute (e : Expr) (key value : String) : Expr :=
  mk e.place (e.attributes.insert key value) e.node

def attribute? (e : Expr) (key : String) : Option String := e.attributes.lookup key

def isConstant (e : Expr) : Bool :=
  match e.node with
  | .constant .. | .constantFor .. => true
  | _ => false

end Expr

def Branch.key : Branch → Operand
  | mk k _ => k

def Branch.result : Branch → Operand
  | mk _ r => r

namespace Operand

def expr? : Operand → Option Expr
  | expr e => some e
  | _ => none

mutual

def same : Operand → Operand → Bool
  | expr a, expr b => a.same b
  | value a, value b => a.same b
  | list a, list b => sameItems a b
  | _, _ => false

def sameItems : List Operand → List Operand → Bool
  | [], [] => true
  | a :: r, b :: s => a.same b && sameItems r s
  | _, _ => false

end

mutual

/-- whether the constants can be written as literals of type `t`; the first that cannot is an error -/
def check : Operand → DataType → Except ExprError Unit
  | expr _, _ => .ok ()
  | value v, t => v.check t
  | list items, t => checkItems items t

def checkItems : List Operand → DataType → Except ExprError Unit
  | [], _ => .ok ()
  | x :: r, t =>
    match x.check t with
    | .ok () => checkItems r t
    | .error e => .error e

end

end Operand

end ColumnSql
