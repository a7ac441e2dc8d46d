import ColumnSql.Text.Letter
import ColumnSql.Text.Quoted
import ColumnSql.Text.Search

/-! Names of columns and tables: which of them need quotes, and quotes that a dialect chooses. -/

namespace ColumnSql.Identifier

def reserved : List String :=
  ["user", "group", "table", "column", "view", "index", "constraint", "select", "update", "insert",
    "alter", "delete", "order"]

def illegal : List Char :=
  ['@', '?', '>', '=', '<', ';', ':', '/', '.', '-', ',', '+', '*', ')', '(', '\x27', '&', '%', '!',
    ' ']

def needsQuotes (name : String) : Bool :=
  reserved.contains (Text.lowered name) || name.toList.any illegal.contains

/-- `name` between two quotes that are texts, a closing one inside written twice -/
def quoteWith (left right name : String) : String :=
  if right.isEmpty then left ++ name
  else
    left ++ String.ofList (Text.replaceAll right.toList (right ++ right).toList name.toList) ++ right

end ColumnSql.Identifier
