import ColumnSql.Calendar.Pattern
import ColumnSql.Calendar.Reading
import ColumnSql.Decimal.Layout
import ColumnSql.Decimal.Numeral
import ColumnSql.Error

/-! Constants, and the types as whose literals they can be written. -/

namespace ColumnSql

open Decimal

inductive Value
  | null
  | bool (b : Bool)
  | int (n : Int64)
  | float (x : Float)
  /-- a decimal number as text, so that it keeps its digits -/
  | decimal (s : String)
  | text (s : String)
  | date (d : Calendar.Date)
  | time (t : Calendar.Time)
  | dateTime (t : Calendar.DateTime)
  | now
  | raw (sql : String)

namespace Value

def isNull : Value → Bool
  | null => true
  | _ => false

/-- whether the constant is written as null: null itself and the empty text -/
def isEmpty : Value → Bool
  | null => true
  | text s => s.isEmpty
  | _ => false

def isRaw : Value → Bool
  | raw _ => true
  | _ => false

def naturalType : Value → DataType
  | null | raw _ => .unknown
  | bool _ => .bool
  | int _ => .integer
  | float _ => .float
  | decimal _ => .decimal
  | text _ => .varchar
  | date _ => .date
  | time _ => .time
  | dateTime _ | now => .dateTime

/-- Exponents in SQL have no plus sign. -/
def floatLayout : Layout := ⟨false⟩

def plain : Value → String
  | null => "null"
  | bool b => if b then "true" else "false"
  | int n => String.ofList (intText n.toInt)
  | float x => floatLayout.text x
  | decimal s | text s | raw s => s
  | date d => d.text
  | time t => t.text
  | dateTime t => t.text
  | now => "sysdate"

/-- the same constant; a NaN differs from itself -/
def same : Value → Value → Bool
  | null, null => true
  | bool a, bool b => a == b
  | int a, int b => a == b
  | float a, float b => a == b
  | decimal a, decimal b => a == b
  | text a, text b => a == b
  | date a, date b => a == b
  | time a, time b => a == b
  | dateTime a, dateTime b => a == b
  | now, now => true
  | raw a, raw b => a == b
  | _, _ => false

def invalid (text : String) (fault : Fault) : ExprError := .invalidArgument .value text fault

def ofDecimal (s : String) : Except ExprError Value :=
  let t := Text.trimmed s
  if isDecimal t.toList then .ok (decimal t) else .error (invalid t .notDecimal)

/-- the number of type `t` that `s` is, without its plus sign -/
def numberText? (s : String) (t : DataType) : Option String :=
  let n := Text.trim s.toList
  if (if t.isWhole then isInteger n else isDecimal n) then some (String.ofList (withoutPlus n))
  else none

def isTrueText (s : String) : Bool :=
  ["1", "true", "y", "yes"].contains (Text.lowered (Text.trimmed s))

def isTrue : Value → Bool
  | bool b => b
  | int n => n != 0
  | float x => !isZero x
  | decimal s | text s => isTrueText s
  | _ => false

def check (v : Value) (t : DataType) : Except ExprError Unit :=
  if v.isEmpty || v.isRaw then .ok ()
  else if t = .blob then .error (.unsupportedType t)
  else
    match v with
    | float x => if isFinite x then .ok () else .error (invalid v.plain .notFinite)
    | decimal s => if isDecimal s.toList then .ok () else .error (invalid s .notDecimal)
    | text s =>
      if t.isNumeric ∧ (numberText? s t).isNone then .error (invalid s (.notNumber t))
      else if t.isTemporal ∧ (Calendar.moment? s).isNone then .error (invalid s (.notTemporal t))
      else .ok ()
    | time _ =>
      if t = .date ∨ t = .dateTime ∨ t = .timestamp then .error (invalid v.plain (.timeOfDay t))
      else .ok ()
    | date _ => if t = .time then .error (invalid v.plain .dateOnly) else .ok ()
    | _ => .ok ()

def moment? : Value → Option Calendar.Moment
  | date d => some (.date d)
  | time t => some (.time t)
  | dateTime t => some (.dateTime t)
  | text s => Calendar.moment? s
  | _ => none

theorem check_of_isEmpty {v : Value} (h : v.isEmpty = true) (t : DataType) : v.check t = .ok () := by
  simp [check, h]

theorem check_raw (s : String) (t : DataType) : (raw s).check t = .ok () := by
  simp [check, isRaw]

end Value

end ColumnSql
