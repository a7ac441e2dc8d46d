import ColumnSql.Text.Blank
import ColumnSql.Text.Letter

/-! The types of column expressions. -/

namespace ColumnSql

inductive DataType
  | unknown
  | integer
  | autoInc
  | varchar
  | char
  | clob
  | date
  | time
  | dateTime
  | timestamp
  | float
  | decimal
  | bool
  | blob
  | uniqueId
deriving DecidableEq, Inhabited

namespace DataType

def all : List DataType :=
  [unknown, integer, autoInc, varchar, char, clob, date, time, dateTime, timestamp, float, decimal,
    bool, blob, uniqueId]

def name : DataType → String
  | unknown => "UNKNOWN"
  | integer => "INTEGER"
  | autoInc => "AUTOINC"
  | varchar => "VARCHAR"
  | char => "CHAR"
  | clob => "CLOB"
  | date => "DATE"
  | time => "TIME"
  | dateTime => "DATETIME"
  | timestamp => "TIMESTAMP"
  | float => "FLOAT"
  | decimal => "DECIMAL"
  | bool => "BOOL"
  | blob => "BLOB"
  | uniqueId => "UNIQUEID"

def key : DataType → String
  | unknown => "unknown"
  | integer => "integer"
  | autoInc => "auto_inc"
  | varchar => "varchar"
  | char => "char"
  | clob => "clob"
  | date => "date"
  | time => "time"
  | dateTime => "date_time"
  | timestamp => "timestamp"
  | float => "float"
  | decimal => "decimal"
  | bool => "bool"
  | blob => "blob"
  | uniqueId => "unique_id"

/-- the type of a name in a document, where `text` is also a name of varchar -/
def ofKey? (s : String) : Option DataType :=
  if s = "text" then some varchar else all.find? fun t => t.key = s

def spellings : DataType → List String
  | unknown => ["unknown"]
  | integer => ["integer", "int", "bigint", "smallint"]
  | autoInc => ["autoinc", "auto_inc", "identity", "serial"]
  | varchar => ["varchar", "text", "string", "nvarchar"]
  | char => ["char", "character", "nchar"]
  | clob => ["clob", "ntext"]
  | date => ["date"]
  | time => ["time"]
  | dateTime => ["datetime", "date_time"]
  | timestamp => ["timestamp"]
  | float => ["float", "double", "real"]
  | decimal => ["decimal", "numeric", "number"]
  | bool => ["bool", "boolean", "bit"]
  | blob => ["blob", "binary", "bytea"]
  | uniqueId => ["uniqueid", "unique_id", "uuid", "guid"]

/-- the type that `s` names, in any case and with blanks around it -/
def ofName? (s : String) : Option DataType :=
  all.find? fun t => t.spellings.contains (Text.lowered (Text.trimmed s))

def isText : DataType → Bool
  | varchar | char | clob => true
  | _ => false

def isNumeric : DataType → Bool
  | integer | autoInc | decimal | float => true
  | _ => false

def isWhole : DataType → Bool
  | integer | autoInc => true
  | _ => false

def isTemporal : DataType → Bool
  | date | time | dateTime | timestamp => true
  | _ => false

theorem ofKey?_key (t : DataType) : ofKey? t.key = some t := by cases t <;> decide

end DataType

end ColumnSql
