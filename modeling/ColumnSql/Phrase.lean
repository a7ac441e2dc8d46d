import ColumnSql.Text.Blank

/-! The pieces of SQL in which dialects differ, and their generic templates.

In a template `?` is the place of an operand, and `{0}` or `{0:VARCHAR}` that of a parameter. -/

namespace ColumnSql

/-- what dialects have templates for -/
inductive Phrase
  | null
  | renameColumn
  | quotesOpen
  | quotesClose
  | concatExpr
  | booleanTrue
  | booleanFalse
  | currentDate
  | datePattern
  | dateTemplate
  | currentTime
  | timePattern
  | timeTemplate
  | currentDateTime
  | dateTimePattern
  | dateTimeTemplate
  | currentTimestamp
  | timestampPattern
  | timestampTemplate
  | coalesce
  | concat
  | substring
  | substringLength
  | replace
  | reverse
  | indexOf
  | indexOfFrom
  | length
  | upper
  | lower
  | trim
  | trimLeft
  | trimRight
  | escape
  | abs
  | round
  | trunc
  | floor
  | ceiling
  | modulo
  | format
  | day
  | month
  | year
  | sum
  | max
  | min
  | avg
  | count
  | countDistinct
  | decode
  | decodeSeparator
  | decodePart
  | decodeElse
deriving DecidableEq, Inhabited

namespace Phrase

def all : List Phrase :=
  [null, renameColumn, quotesOpen, quotesClose, concatExpr, booleanTrue, booleanFalse, currentDate,
    datePattern, dateTemplate, currentTime, timePattern, timeTemplate, currentDateTime,
    dateTimePattern, dateTimeTemplate, currentTimestamp, timestampPattern, timestampTemplate,
    coalesce, concat, substring, substringLength, replace, reverse, indexOf, indexOfFrom, length,
    upper, lower, trim, trimLeft, trimRight, escape, abs, round, trunc, floor, ceiling, modulo,
    format, day, month, year, sum, max, min, avg, count, countDistinct, decode, decodeSeparator,
    decodePart, decodeElse]

theorem mem_all (p : Phrase) : p ∈ all := by cases p <;> decide

def key : Phrase → String
  | null => "null"
  | renameColumn => "rename_column"
  | quotesOpen => "quotes_open"
  | quotesClose => "quotes_close"
  | concatExpr => "concat_expr"
  | booleanTrue => "boolean_true"
  | booleanFalse => "boolean_false"
  | currentDate => "current_date"
  | datePattern => "date_pattern"
  | dateTemplate => "date_template"
  | currentTime => "current_time"
  | timePattern => "time_pattern"
  | timeTemplate => "time_template"
  | currentDateTime => "current_date_time"
  | dateTimePattern => "date_time_pattern"
  | dateTimeTemplate => "date_time_template"
  | currentTimestamp => "current_timestamp"
  | timestampPattern => "timestamp_pattern"
  | timestampTemplate => "timestamp_template"
  | coalesce => "func_coalesce"
  | concat => "func_concat"
  | substring => "func_substring"
  | substringLength => "func_substring_ex"
  | replace => "func_replace"
  | reverse => "func_reverse"
  | indexOf => "func_str_index"
  | indexOfFrom => "func_str_index_from"
  | length => "func_length"
  | upper => "func_upper"
  | lower => "func_lower"
  | trim => "func_trim"
  | trimLeft => "func_ltrim"
  | trimRight => "func_rtrim"
  | escape => "func_escape"
  | abs => "func_abs"
  | round => "func_round"
  | trunc => "func_trunc"
  | floor => "func_floor"
  | ceiling => "func_ceiling"
  | modulo => "func_modulo"
  | format => "func_format"
  | day => "func_day"
  | month => "func_month"
  | year => "func_year"
  | sum => "func_sum"
  | max => "func_max"
  | min => "func_min"
  | avg => "func_avg"
  | count => "func_count"
  | countDistinct => "func_count_distinct"
  | decode => "func_decode"
  | decodeSeparator => "func_decode_sep"
  | decodePart => "func_decode_part"
  | decodeElse => "func_decode_else"

def ofExactKey? (s : String) : Option Phrase := all.find? fun p => p.key = s

def ofKey? (s : String) : Option Phrase := ofExactKey? (Text.trimmed s)

/-- the template of a dialect without one of its own -/
def template : Phrase → String
  | null => "null"
  | renameColumn => " AS "
  | quotesOpen => "\""
  | quotesClose => "\""
  | concatExpr => " || "
  | booleanTrue => "1"
  | booleanFalse => "0"
  | currentDate => "CURRENT_DATE"
  | datePattern => "%Y-%m-%d"
  | dateTemplate => "DATE '{0}'"
  | currentTime => "CURRENT_TIME"
  | timePattern => "%H:%M:%S"
  | timeTemplate => "TIME '{0}'"
  | currentDateTime => "CURRENT_TIMESTAMP"
  | dateTimePattern => "%Y-%m-%d %H:%M:%S"
  | dateTimeTemplate => "TIMESTAMP '{0}'"
  | currentTimestamp => "CURRENT_TIMESTAMP"
  | timestampPattern => "%Y-%m-%d %H:%M:%S%.3f"
  | timestampTemplate => "TIMESTAMP '{0}'"
  | coalesce => "coalesce(?, {0})"
  | concat => "concat(?)"
  | substring => "substring(?, {0})"
  | substringLength => "substring(?, {0}, {1})"
  | replace => "replace(?, {0}, {1})"
  | reverse => "reverse(?)"
  | indexOf => "position({0} in ?)"
  | indexOfFrom => "charindex({0}, ?, {1:INTEGER})"
  | length => "length(?)"
  | upper => "upper(?)"
  | lower => "lower(?)"
  | trim => "trim(?)"
  | trimLeft => "ltrim(?)"
  | trimRight => "rtrim(?)"
  | escape => "? escape {0:VARCHAR}"
  | abs => "abs(?)"
  | round => "round(?, {0})"
  | trunc => "trunc(?, {0})"
  | floor => "floor(?)"
  | ceiling => "ceiling(?)"
  | modulo => "mod(?, {0})"
  | format => "format(?, {0:VARCHAR})"
  | day => "extract(day from ?)"
  | month => "extract(month from ?)"
  | year => "extract(year from ?)"
  | sum => "sum(?)"
  | max => "max(?)"
  | min => "min(?)"
  | avg => "avg(?)"
  | count => "count(?)"
  | countDistinct => "count(distinct ?)"
  | decode => "case ?{0} end"
  | decodeSeparator => " "
  | decodePart => "when {0} then {1}"
  | decodeElse => "else {0}"

def isAggregate : Phrase → Bool
  | sum | max | min | avg | count | countDistinct => true
  | _ => false

/-- whether the phrase is a function around an operand, so that its templates need a `?` -/
def takesOperand : Phrase → Bool
  | null | renameColumn | quotesOpen | quotesClose | concatExpr | booleanTrue | booleanFalse
  | currentDate | datePattern | dateTemplate | currentTime | timePattern | timeTemplate
  | currentDateTime | dateTimePattern | dateTimeTemplate | currentTimestamp | timestampPattern
  | timestampTemplate | concat | decodeSeparator | decodePart | decodeElse => false
  | _ => true

def hasMark (template : String) : Bool := template.toList.contains '?'

/-- An empty template stands for the generic one and is accepted for each phrase. -/
def accepts (p : Phrase) (template : String) : Bool :=
  !p.takesOperand || template.isEmpty || hasMark template

theorem ofExactKey?_key (p : Phrase) : ofExactKey? p.key = some p := by cases p <;> decide

theorem template_ne_empty (p : Phrase) : p.template ≠ "" := by cases p <;> simp [template]

theorem accepts_template (p : Phrase) : p.accepts p.template = true := by
  cases p <;> simp [accepts, takesOperand, hasMark, template]

end Phrase

end ColumnSql
