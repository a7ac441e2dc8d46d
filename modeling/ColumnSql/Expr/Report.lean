import ColumnSql.Expr.Description
import ColumnSql.Json.Basic

/-! Descriptions as JSON, without what is empty. -/

namespace ColumnSql

def textMember (name : String) : Option String → List (String × Json)
  | some s => [(name, .string s)]
  | none => []

def attributesMember : Attributes → List (String × Json)
  | [] => []
  | a => [("attributes", .object (a.map fun x => (x.1, .string x.2)))]

def childrenMember : List Json → List (String × Json)
  | [] => []
  | items => [("children", .array items)]

mutual

def Description.toJson : Description → Json
  | ⟨kind, name, function, t, aggregate, value, attributes, children⟩ =>
    .object
      (("kind", .string kind.text) :: textMember "name" name ++ textMember "function" function ++
        [("data_type", .string t.key)] ++
        (if aggregate then [("aggregate", .bool true)] else []) ++
        textMember "value" value ++ attributesMember attributes ++
        childrenMember (Description.toJsonItems children))

def Description.toJsonItems : List Description → List Json
  | [] => []
  | d :: r => d.toJson :: Description.toJsonItems r

end

end ColumnSql
