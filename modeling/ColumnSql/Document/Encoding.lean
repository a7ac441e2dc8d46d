import ColumnSql.Document.Basic
import ColumnSql.Json.Printer

/-! Documents as JSON: objects with the kind first and the other fields in order. Optional fields
without a value are left out. -/

namespace ColumnSql

namespace Document

def typeField (t : DataType) : String × Json := ("data_type", .string t.key)

def textField (name s : String) : String × Json := (name, .string s)

def typeField? (name : String) : Option DataType → List (String × Json)
  | some t => [(name, .string t.key)]
  | none => []

def textField? (name : String) : Option String → List (String × Json)
  | some s => [(name, .string s)]
  | none => []

def Kind.object (k : Kind) (fields : List (String × Json)) : Json :=
  .object (("kind", .string k.key) :: fields)

/-- a field for a list that is left out if the list is empty -/
def itemsField? (name : String) : List Json → List (String × Json)
  | [] => []
  | items => [(name, .array items)]

end Document

open Document in
mutual

def Document.toJson : Document → Json
  | .column name table t =>
    Kind.column.object (textField "name" name :: textField? "table" table ++ [typeField t])
  | .value v t => Kind.value.object [("value", v), typeField t]
  | .now t => Kind.now.object [typeField t]
  | .arith e op v =>
    Kind.arith.object [("expr", e.toJson), textField "op" op.symbol, ("value", v.toJson)]
  | .concat e v => Kind.concat.object [("expr", e.toJson), ("value", v.toJson)]
  | .concatAll e others separator =>
    Kind.concatAll.object
      (("expr", e.toJson) :: ("others", .array (Document.toJsonItems others)) ::
        textField? "separator" separator)
  | .countAll => Kind.countAll.object []
  | .function e template t aggregate =>
    Kind.function.object
      (("expr", e.toJson) :: textField "template" template ::
        typeField? "data_type" t ++ [("aggregate", .bool aggregate)])
  | .phrase e p params paramType t =>
    Kind.phrase.object
      (("expr", e.toJson) :: textField "phrase" p.key ::
        itemsField? "params" (Term.toJsonItems params) ++ typeField? "param_type" paramType ++
        typeField? "data_type" t)
  | .call before e between other after =>
    Kind.call.object
      (textField "prefix" before :: ("expr", e.toJson) :: textField "middle" between ::
        (match other with
          | some o => [("other", o.toJson)]
          | none => []) ++ [textField "postfix" after])
  | .decode e cases otherwise t =>
    Kind.decode.object
      (("expr", e.toJson) :: ("cases", .array (Case.toJsonItems cases)) ::
        (match otherwise with
          | some v => [("else", v.toJson)]
          | none => []) ++ [typeField t])
  | .convert e t format =>
    Kind.convert.object (("expr", e.toJson) :: typeField t :: textField? "format" format)
  | .parenthesis e => Kind.parenthesis.object [("expr", e.toJson)]
  | .named e name => Kind.named.object [("expr", e.toJson), textField "alias" name]

def Term.toJson : Term → Json
  | .node e => e.toJson
  | .list items => .array (Term.toJsonItems items)
  | .plain v => v

def Case.toJson : Case → Json
  | .mk key result => .object [("when", key.toJson), ("then", result.toJson)]

def Document.toJsonItems : List Document → List Json
  | [] => []
  | e :: r => e.toJson :: Document.toJsonItems r

def Term.toJsonItems : List Term → List Json
  | [] => []
  | v :: r => v.toJson :: Term.toJsonItems r

def Case.toJsonItems : List Case → List Json
  | [] => []
  | c :: r => c.toJson :: Case.toJsonItems r

end

def Document.text (e : Document) : String := e.toJson.compact

def DocumentError.message : DocumentError → String
  | unreadable => "Invalid expression document"
  | invalid e => "Invalid expression: " ++ e.message
  | unsupportedConstant v => "Unsupported constant: " ++ v.compact

end ColumnSql
