import ColumnSql.Dialect.Name
import ColumnSql.Text.Quoted

/-! Templates that convert an expression to another type. A bare `?` converts nothing. -/

namespace ColumnSql

def textLiteral (s : String) : String := Text.quoted '\x27' '\x27' s

namespace Conversion

def cast : Option String → String
  | some t => "CAST(? AS " ++ t ++ ")"
  | none => "?"

def typeName? : DataType → Option String
  | .unknown => none
  | .integer | .autoInc => some "INTEGER"
  | .varchar | .uniqueId => some "VARCHAR"
  | .char => some "CHAR"
  | .clob => some "CLOB"
  | .date => some "DATE"
  | .time => some "TIME"
  | .dateTime | .timestamp => some "TIMESTAMP"
  | .float => some "DOUBLE PRECISION"
  | .decimal => some "DECIMAL"
  | .bool => some "BOOLEAN"
  | .blob => some "BLOB"

/-- Formats play no part in the generic conversions. -/
def generic (dest : DataType) : String := cast (typeName? dest)

def call (function : String) : Option String → String
  | some f => function ++ "(?, " ++ textLiteral f ++ ")"
  | none => function ++ "(?)"

def oracle (dest source : DataType) (format : Option String) : String :=
  match dest with
  | .varchar | .char | .uniqueId => call "to_char" format
  | .clob => "to_clob(?)"
  | .integer | .autoInc | .decimal | .float =>
    if source.isNumeric && format.isNone then "?" else call "to_number" format
  | .date | .dateTime => call "to_date" format
  | .timestamp => call "to_timestamp" format
  | .time | .bool | .blob | .unknown => "?"

/-- The format is the number of a style here. -/
def styled (name : String) : Option String → String
  | some style => "convert(" ++ name ++ ", ?, " ++ style ++ ")"
  | none => "convert(" ++ name ++ ", ?)"

/-- Dates without a style take one that begins with the year. -/
def sqlServerText (source : DataType) : Option String → String
  | some style => styled "nvarchar" (some style)
  | none =>
    match source with
    | .date => "convert(nvarchar, ?, 111)"
    | .dateTime | .timestamp => "convert(nvarchar, ?, 120)"
    | _ => "convert(nvarchar, ?)"

def sqlServer (dest source : DataType) (format : Option String) : String :=
  match dest with
  | .bool => "convert(bit, ?)"
  | .integer | .autoInc => "convert(int, ?)"
  | .decimal => "convert(decimal, ?)"
  | .float => "convert(float, ?)"
  | .date => styled "date" format
  | .time => styled "time" format
  | .dateTime => styled "datetime" format
  | .timestamp => styled "datetime2" format
  | .varchar | .char | .uniqueId => sqlServerText source format
  | .clob => "convert(nvarchar(max), ?)"
  | .blob | .unknown => "?"

def mySql (dest source : DataType) (format : Option String) : String :=
  match dest with
  | .bool | .integer | .autoInc => cast (some "SIGNED")
  | .decimal | .float => cast (some "DECIMAL")
  | .date => cast (some "DATE")
  | .time => cast (some "TIME")
  | .dateTime | .timestamp => cast (some "DATETIME")
  | .varchar | .char | .clob | .uniqueId =>
    if source.isTemporal && format.isSome then call "DATE_FORMAT" format else cast (some "CHAR")
  | .blob | .unknown => cast none

def postgres (dest source : DataType) (format : Option String) : String :=
  match dest with
  | .bool => cast (some "BOOL")
  | .integer | .autoInc => cast (some "INTEGER")
  | .decimal => cast (some "DECIMAL")
  | .float => cast (some "DOUBLE PRECISION")
  | .date => cast (some "DATE")
  | .time => cast (some "TIME")
  | .dateTime | .timestamp => cast (some "TIMESTAMP")
  | .char => cast (some "CHAR")
  | .varchar | .clob | .uniqueId =>
    if format.isSome && (source.isTemporal || source.isNumeric) then call "to_char" format
    else cast (some "TEXT")
  | .blob => cast (some "BYTEA")
  | .unknown => cast none

/-- Dates are texts here, which functions convert. -/
def sqlite (dest source : DataType) (format : Option String) : String :=
  match dest with
  | .bool | .integer | .autoInc => cast (some "INTEGER")
  | .float => cast (some "REAL")
  | .decimal => cast (some "NUMERIC")
  | .date => "date(?)"
  | .time => "time(?)"
  | .dateTime | .timestamp => "datetime(?)"
  | .varchar | .char | .clob | .uniqueId =>
    match format with
    | some f =>
      if source.isTemporal then "strftime(" ++ textLiteral f ++ ", ?)" else cast (some "TEXT")
    | none => cast (some "TEXT")
  | .blob => cast (some "BLOB")
  | .unknown => cast none

end Conversion

def Builtin.conversion (b : Builtin) (dest source : DataType) (format : Option String) : String :=
  match b with
  | generic | hsql => Conversion.generic dest
  | oracle => Conversion.oracle dest source format
  | sqlServer => Conversion.sqlServer dest source format
  | mySql => Conversion.mySql dest source format
  | postgres => Conversion.postgres dest source format
  | sqlite => Conversion.sqlite dest source format

end ColumnSql
