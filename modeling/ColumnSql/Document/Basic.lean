import ColumnSql.Expr.Basic
import ColumnSql.Json.Basic

/-! Documents: column expressions as data. -/

namespace ColumnSql

namespace Document

inductive Kind
  | column
  | value
  | now
  | arith
  | concat
  | concatAll
  | countAll
  | function
  | phrase
  | call
  | decode
  | convert
  | parenthesis
  | named
deriving DecidableEq

namespace Kind

def all : List Kind :=
  [column, value, now, arith, concat, concatAll, countAll, function, phrase, call, decode, convert,
    parenthesis, named]

def key : Kind → String
  | column => "column"
  | value => "value"
  | now => "sysdate"
  | arith => "calc"
  | concat => "concat"
  | concatAll => "concat_func"
  | countAll => "count_all"
  | function => "func"
  | phrase => "phrase"
  | call => "func_ex"
  | decode => "decode"
  | convert => "convert"
  | parenthesis => "parenthesis"
  | named => "alias"

/-- the names of the fields in the order of the array form -/
def fields : Kind → List String
  | column => ["name", "table", "data_type"]
  | value => ["value", "data_type"]
  | now => ["data_type"]
  | arith => ["expr", "op", "value"]
  | concat => ["expr", "value"]
  | concatAll => ["expr", "others", "separator"]
  | countAll => []
  | function => ["expr", "template", "data_type", "aggregate"]
  | phrase => ["expr", "phrase", "params", "param_type", "data_type"]
  | call => ["prefix", "expr", "middle", "other", "postfix"]
  | decode => ["expr", "cases", "else", "data_type"]
  | convert => ["expr", "data_type", "format"]
  | parenthesis => ["expr"]
  | named => ["expr", "alias"]

def ofKey? (s : String) : Option Kind := all.find? fun k => k.key = s

theorem ofKey?_key (k : Kind) : ofKey? k.key = some k := by cases k <;> decide

end Kind

end Document

mutual

inductive Document
  | column (name : String) (table : Option String) (t : DataType)
  | value (v : Json) (t : DataType)
  | now (t : DataType)
  | arith (e : Document) (op : Operator) (v : Term)
  | concat (e : Document) (v : Term)
  | concatAll (e : Document) (others : List Document) (separator : Option String)
  | countAll
  | function (e : Document) (template : String) (t : Option DataType) (aggregate : Bool)
  | phrase (e : Document) (p : Phrase) (params : List Term) (paramType t : Option DataType)
  | call (before : String) (e : Document) (between : String) (other : Option Document)
      (after : String)
  | decode (e : Document) (cases : List Case) (otherwise : Option Term) (t : DataType)
  | convert (e : Document) (t : DataType) (format : Option String)
  | parenthesis (e : Document)
  | named (e : Document) (name : String)

inductive Term
  | node (e : Document)
  | list (items : List Term)
  | plain (v : Json)

inductive Case
  | mk (key result : Term)

end

inductive DocumentError
  | unreadable
  | invalid (e : ExprError)
  | unsupportedConstant (v : Json)

mutual

def Document.same : Document → Document → Bool
  | .column n t d, .column n' t' d' => n == n' && t == t' && d == d'
  | .value v t, .value v' t' => v.same v' && t == t'
  | .now t, .now t' => t == t'
  | .arith e op v, .arith e' op' v' => e.same e' && op == op' && v.same v'
  | .concat e v, .concat e' v' => e.same e' && v.same v'
  | .concatAll e others s, .concatAll e' others' s' =>
    e.same e' && Document.sameItems others others' && s == s'
  | .countAll, .countAll => true
  | .function e s t a, .function e' s' t' a' => e.same e' && s == s' && t == t' && a == a'
  | .phrase e p params pt t, .phrase e' p' params' pt' t' =>
    e.same e' && p == p' && Term.sameItems params params' && pt == pt' && t == t'
  | .call a e b none c, .call a' e' b' none c' => a == a' && e.same e' && b == b' && c == c'
  | .call a e b (some o) c, .call a' e' b' (some o') c' =>
    a == a' && e.same e' && b == b' && o.same o' && c == c'
  | .decode e cases none t, .decode e' cases' none t' =>
    e.same e' && Case.sameItems cases cases' && t == t'
  | .decode e cases (some v) t, .decode e' cases' (some v') t' =>
    e.same e' && Case.sameItems cases cases' && v.same v' && t == t'
  | .convert e t f, .convert e' t' f' => e.same e' && t == t' && f == f'
  | .parenthesis e, .parenthesis e' => e.same e'
  | .named e n, .named e' n' => e.same e' && n == n'
  | _, _ => false

def Term.same : Term → Term → Bool
  | .node e, .node e' => e.same e'
  | .list items, .list items' => Term.sameItems items items'
  | .plain v, .plain v' => v.same v'
  | _, _ => false

def Case.same : Case → Case → Bool
  | .mk k r, .mk k' r' => k.same k' && r.same r'

def Document.sameItems : List Document → List Document → Bool
  | [], [] => true
  | a :: r, b :: s => a.same b && Document.sameItems r s
  | _, _ => false

def Term.sameItems : List Term → List Term → Bool
  | [], [] => true
  | a :: r, b :: s => a.same b && Term.sameItems r s
  | _, _ => false

def Case.sameItems : List Case → List Case → Bool
  | [], [] => true
  | a :: r, b :: s => a.same b && Case.sameItems r s
  | _, _ => false

end

end ColumnSql
