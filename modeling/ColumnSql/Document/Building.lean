import ColumnSql.Document.Decoding
import ColumnSql.Expr.Build

/-! The expressions of documents. The parts of a node get places below its own. -/

namespace ColumnSql

def ofExprError {α : Type} : Except ExprError α → Except DocumentError α
  | .ok x => .ok x
  | .error e => .error (.invalid e)

/-- An integer is one if 64 bits hold it, else a floating point number. Texts of type decimal keep
their digits. -/
def Json.constant (t : DataType) : Json → Except DocumentError Value
  | .null => .ok .null
  | .bool b => .ok (.bool b)
  | .int n =>
    if Int64.minValue.toInt ≤ n ∧ n ≤ Int64.maxValue.toInt then .ok (.int (Int64.ofInt n))
    else .ok (.float (Decimal.nearest n.natAbs 1))
  | .float x => .ok (.float x)
  | .string s => if t = .decimal then ofExprError (Value.ofDecimal s) else .ok (.text s)
  | v => .error (.unsupportedConstant v)

mutual

/-- the expression of a node at a place; its parts stand at places below that one -/
def Document.build : Document → Place → Except DocumentError Expr
  | .column name table t, place => .ok (Expr.column ⟨table, name, t⟩ place)
  | .value v t, place => do ofExprError (Expr.constant (← v.constant t) t place)
  | .now t, place => ofExprError (Expr.constant .now t place)
  | .arith e op v, place => do
    let e ← e.build (1 :: place)
    let v ← v.build (2 :: place)
    ofExprError (e.arith op v place)
  | .concat e v, place => do
    let e ← e.build (1 :: place)
    return e.append (← v.build (2 :: place)) place
  | .concatAll e others separator, place => do
    let others ← Document.buildItems others (2 :: place) 0
    let e ← e.build (1 :: place)
    match separator with
    | some s => return e.concatSeparated s others place
    | none => return e.concat others place
  | .countAll, place => .ok (Expr.countAll place)
  | .function e template t aggregate, place => do
    ofExprError ((← e.build (1 :: place)).function template none aggregate t place)
  | .phrase e p params paramType t, place => do
    let e ← e.build (1 :: place)
    let params ← Term.buildItems params (2 :: place) 0
    ofExprError (e.phrase p params (paramType.getD .unknown) none t place)
  | .call before e between other after, place => do
    let e ← e.build (1 :: place)
    match other with
    | some o => return Expr.callTwo before e between (← o.build (2 :: place)) after none place
    | none => return Expr.call before e after none place
  | .decode e cases otherwise t, place => do
    let pairs ← Case.buildItems cases (2 :: place) 0
    let otherwise ←
      match otherwise with
      | some v => (v.build (3 :: place)).map some
      | none => pure none
    ofExprError ((← e.build (1 :: place)).decode pairs otherwise t place)
  | .convert e t format, place => do return (← e.build (1 :: place)).convertTo t format place
  | .parenthesis e, place => do return (← e.build (1 :: place)).parenthesis place
  | .named e name, place => do return (← e.build (1 :: place)).named name place

def Term.build : Term → Place → Except DocumentError Operand
  | .node e, place => do return .expr (← e.build place)
  | .list items, place => do return .list (← Term.buildItems items place 0)
  | .plain v, _ => do return .value (← v.constant .unknown)

def Document.buildItems : List Document → Place → Nat → Except DocumentError (List Expr)
  | [], _, _ => .ok []
  | e :: r, place, i => do return (← e.build (i :: place)) :: (← Document.buildItems r place (i + 1))

def Term.buildItems : List Term → Place → Nat → Except DocumentError (List Operand)
  | [], _, _ => .ok []
  | v :: r, place, i => do return (← v.build (i :: place)) :: (← Term.buildItems r place (i + 1))

def Case.buildItems : List Case → Place → Nat → Except DocumentError (List (Operand × Operand))
  | [], _, _ => .ok []
  | .mk key result :: r, place, i => do
    let key ← key.build (0 :: i :: place)
    let result ← result.build (1 :: i :: place)
    return (key, result) :: (← Case.buildItems r place (i + 1))

end

def Expr.read (s : String) (place : Place) : Except DocumentError Expr := do
  (← Document.read s).build place

end ColumnSql
