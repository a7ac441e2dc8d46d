import ColumnSql.Expr.Metadata
import ColumnSql.Text.Letter
import ColumnSql.Text.Search

/-! Expressions described for diagnostics: a tree of their nodes and operands. -/

namespace ColumnSql

inductive Description.Kind
  | column
  | value
  | arith
  | concat
  | concatFunc
  | func
  | funcEx
  | decode
  | named
  | list
deriving DecidableEq

def Description.Kind.text : Description.Kind → String
  | column => "column"
  | value => "value"
  | arith => "calc"
  | concat => "concat"
  | concatFunc => "concat_func"
  | func => "func"
  | funcEx => "func_ex"
  | decode => "decode"
  | named => "alias"
  | list => "list"

structure Description where
  kind : Description.Kind
  name : Option String
  /-- a label for the function, which is not SQL -/
  function : Option String
  dataType : DataType
  aggregate : Bool
  value : Option String
  attributes : Attributes
  children : List Description

def leadingWord (s : List Char) : List Char :=
  (Text.trim s).takeWhile fun c => Text.isLetter c || c = '_'

def functionLabel (before after : List Char) : Option String :=
  match leadingWord before, leadingWord after with
  | [], [] => none
  | [], word => some (String.ofList word)
  | word, _ => some (String.ofList word)

def Phrase.label (p : Phrase) : Option String :=
  (Text.splitFirst ['?'] p.template.toList).bind fun x => functionLabel x.1 x.2

def Node.described (n : Node) (kind : Description.Kind) (function : Option String)
    (children : List Description) : Description :=
  ⟨kind, n.name, function, n.dataType, n.isAggregate, none, [], children⟩

mutual

def Expr.describe : Expr → Description
  | .mk _ attributes n => { n.describe with attributes := attributes }

def Node.describe : Node → Description
  | .column c => ⟨.column, some c.fullName, none, c.dataType, false, none, [], []⟩
  | .constant v t => ⟨.value, none, none, t, false, some v.plain, [], []⟩
  | .constantFor c v => ⟨.value, c.name, none, c.dataType, false, some v.plain, [], []⟩
  | .arith e op v =>
    (Node.arith e op v).described .arith (some op.symbol) [e.describe, v.describe]
  | .concat e v => (Node.concat e v).described .concat none [e.describe, v.describe]
  | .concatAll e separator others =>
    (Node.concatAll e separator others).described .concatFunc (some "concat")
      (e.describe :: Expr.describeAll others)
  | .wrap e before after update aggregate t =>
    (Node.wrap e before after update aggregate t).described .func
      (functionLabel before.toList after.toList) [e.describe]
  | .phrase e p params type update t =>
    (Node.phrase e p params type update t).described .func p.label
      (e.describe :: Operand.describeAll params)
  | .convert e dest format =>
    (Node.convert e dest format).described .func (some "convert") [e.describe]
  | .call before e after update =>
    (Node.call before e after update).described .funcEx (functionLabel before.toList after.toList)
      [e.describe]
  | .callTwo before a between b after update =>
    (Node.callTwo before a between b after update).described .funcEx
      (functionLabel before.toList after.toList) [a.describe, b.describe]
  | .decode e branches otherwise t =>
    (Node.decode e branches otherwise t).described .decode (some "decode")
      (e.describe :: Branch.describeAll branches ++
        match otherwise with
        | some v => [v.describe]
        | none => [])
  | .named e name => (Node.named e name).described .named none [e.describe]

def Operand.describe : Operand → Description
  | .expr e => e.describe
  | .value v => ⟨.value, none, none, v.naturalType, false, some v.plain, [], []⟩
  | .list items => ⟨.list, none, none, .unknown, false, none, [], Operand.describeAll items⟩

def Expr.describeAll : List Expr → List Description
  | [] => []
  | e :: r => e.describe :: Expr.describeAll r

def Operand.describeAll : List Operand → List Description
  | [] => []
  | x :: r => x.describe :: Operand.describeAll r

def Branch.describeAll : List Branch → List Description
  | [] => []
  | .mk key result :: r => key.describe :: result.describe :: Branch.describeAll r

end

mutual

/-- the description and all below it, each before its children -/
def Description.walk : Description → List Description
  | ⟨kind, name, function, t, aggregate, value, attributes, children⟩ =>
    ⟨kind, name, function, t, aggregate, value, attributes, children⟩ ::
      Description.walkAll children

def Description.walkAll : List Description → List Description
  | [] => []
  | d :: r => d.walk ++ Description.walkAll r

end

end ColumnSql
