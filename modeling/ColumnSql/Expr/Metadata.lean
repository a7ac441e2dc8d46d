import ColumnSql.Expr.Basic

/-! What is known of an expression without rendering it: its type and name, the column behind it,
whether it aggregates, and the columns that it uses. -/

namespace ColumnSql

mutual

/-- the type of an expression; arithmetic is decimal, and concatenation text -/
def Expr.dataType : Expr → DataType
  | .mk _ _ n => n.dataType

def Node.dataType : Node → DataType
  | .column c => c.dataType
  | .constant _ t => t
  | .constantFor c _ => c.dataType
  | .arith .. => .decimal
  | .concat .. | .concatAll .. => .varchar
  | .wrap e _ _ _ _ t => t.getD e.dataType
  | .phrase e _ _ _ _ t => t.getD e.dataType
  | .convert _ dest _ => dest
  | .call _ e _ _ => e.dataType
  | .callTwo _ e _ _ _ _ => e.dataType
  | .decode _ _ _ t => t
  | .named e _ => e.dataType

end

def joinNames : Option String → Option String → Option String
  | some a, some b => some (a ++ "_" ++ b)
  | a, none => a
  | none, b => b

mutual

def Expr.name : Expr → Option String
  | .mk _ _ n => n.name

def Node.name : Node → Option String
  | .column c => some c.name
  | .constant .. => none
  | .constantFor c _ => c.name
  | .arith e _ _ => e.name
  | .concat e v => joinNames e.name v.name
  | .concatAll e _ others => joinNames e.name (Expr.joinedNames others)
  | .wrap e _ _ _ _ _ => e.name
  | .phrase e _ _ _ _ _ => e.name
  | .convert e _ _ => e.name
  | .call _ e _ _ => e.name
  | .callTwo _ a _ b _ _ => joinNames a.name b.name
  | .decode e _ _ _ => e.name
  | .named _ name => some name

def Operand.name : Operand → Option String
  | .expr e => e.name
  | _ => none

/-- the names of those that are no constants -/
def Expr.joinedNames : List Expr → Option String
  | [] => none
  | e :: r => joinNames (if e.isConstant then none else e.name) (Expr.joinedNames r)

end

mutual

/-- the column that an update of the expression would change -/
def Expr.updateColumn : Expr → Option Column
  | .mk _ _ n => n.updateColumn

def Node.updateColumn : Node → Option Column
  | .column c => some c
  | .constantFor c _ => c.updateColumn
  | .wrap _ _ _ u _ _ => u
  | .phrase _ _ _ _ u _ => u
  | .call _ _ _ u => u
  | .callTwo _ _ _ _ _ u => u
  | .decode e _ _ _ => e.updateColumn
  | .named e _ => e.updateColumn
  | .constant .. | .arith .. | .concat .. | .concatAll .. | .convert .. => none

end

mutual

/-- whether the expression makes one row of many; calls are not asked for their operands -/
def Expr.isAggregate : Expr → Bool
  | .mk _ _ n => n.isAggregate

def Node.isAggregate : Node → Bool
  | .column _ | .constant .. | .constantFor .. | .call .. | .callTwo .. => false
  | .arith e _ v => e.isAggregate || v.isAggregate
  | .concat e v => e.isAggregate || v.isAggregate
  | .concatAll e _ others => e.isAggregate || Expr.anyAggregate others
  | .wrap e _ _ _ aggregate _ => aggregate || e.isAggregate
  | .phrase e p params _ _ _ => p.isAggregate || e.isAggregate || Operand.anyAggregate params
  | .convert e _ _ => e.isAggregate
  | .decode e branches otherwise _ =>
    e.isAggregate || Branch.anyAggregate branches ||
      match otherwise with
      | some v => v.isAggregate
      | none => false
  | .named e _ => e.isAggregate

def Operand.isAggregate : Operand → Bool
  | .expr e => e.isAggregate
  | .value _ => false
  | .list items => Operand.anyAggregate items

def Branch.isAggregate : Branch → Bool
  | .mk k r => k.isAggregate || r.isAggregate

def Expr.anyAggregate : List Expr → Bool
  | [] => false
  | e :: r => e.isAggregate || Expr.anyAggregate r

def Operand.anyAggregate : List Operand → Bool
  | [] => false
  | x :: r => x.isAggregate || Operand.anyAggregate r

def Branch.anyAggregate : List Branch → Bool
  | [] => false
  | b :: r => b.isAggregate || Branch.anyAggregate r

end

mutual

/-- the columns in the expression, from the left and with repeats -/
def Expr.columns : Expr → List Column
  | .mk _ _ n => n.columns

def Node.columns : Node → List Column
  | .column c => [c]
  | .constant .. | .constantFor .. => []
  | .arith e _ v => e.columns ++ v.columns
  | .concat e v => e.columns ++ v.columns
  | .concatAll e _ others => e.columns ++ Expr.allColumns others
  | .wrap e _ _ _ _ _ => e.columns
  | .phrase e _ params _ _ _ => e.columns ++ Operand.allColumns params
  | .convert e _ _ => e.columns
  | .call _ e _ _ => e.columns
  | .callTwo _ a _ b _ _ => a.columns ++ b.columns
  | .decode e branches otherwise _ =>
    e.columns ++ Branch.allColumns branches ++
      match otherwise with
      | some v => v.columns
      | none => []
  | .named e _ => e.columns

def Operand.columns : Operand → List Column
  | .expr e => e.columns
  | .value _ => []
  | .list items => Operand.allColumns items

def Branch.columns : Branch → List Column
  | .mk k r => k.columns ++ r.columns

def Expr.allColumns : List Expr → List Column
  | [] => []
  | e :: r => e.columns ++ Expr.allColumns r

def Operand.allColumns : List Operand → List Column
  | [] => []
  | x :: r => x.columns ++ Operand.allColumns r

def Branch.allColumns : List Branch → List Column
  | [] => []
  | b :: r => b.columns ++ Branch.allColumns r

end

/-- by table, none before all others, then by name and by the name of the type -/
def Column.key (c : Column) : List String :=
  (match c.table with
    | none => ["0"]
    | some t => ["1", t]) ++ [c.name, c.dataType.name]

def Column.sorted (cs : List Column) : List Column :=
  cs.eraseDups.mergeSort fun a b => decide (List.le a.key b.key)

def Expr.references (e : Expr) : List Column := Column.sorted e.columns

def Operand.references (v : Operand) : List Column := Column.sorted v.columns

end ColumnSql
