import ColumnSql.Value

/-! Constants as SQL literals by the phrases of a dialect and its quotes for texts. -/

namespace ColumnSql.Literal

open Calendar

variable (phrase : Phrase → String) (quote : String → String)

/-- the moment by the phrases of its kind of literal, a pattern for its text and a template -/
def ofMoment (template pattern : Phrase) (t : DateTime) : String :=
  let text := ((t.format? (phrase pattern)).orElse fun _ => t.format? pattern.template).getD ""
  let around := if (phrase template).isEmpty then template.template else phrase template
  String.ofList (Text.replaceAll ['\x7b', '0', '\x7d'] text.toList around.toList)

/-- A date keeps the form of a date at each type. -/
def temporal? (m : Moment) (t : DataType) : Option String :=
  match t, m with
  | .time, .time x => some (ofMoment phrase .timeTemplate .timePattern ⟨.first, x⟩)
  | .time, .dateTime x => some (ofMoment phrase .timeTemplate .timePattern x)
  | _, .date x => some (ofMoment phrase .dateTemplate .datePattern ⟨x, .midnight⟩)
  | .date, .dateTime x => some (ofMoment phrase .dateTemplate .datePattern x)
  | .dateTime, .dateTime x => some (ofMoment phrase .dateTimeTemplate .dateTimePattern x)
  | .timestamp, .dateTime x => some (ofMoment phrase .timestampTemplate .timestampPattern x)
  | _, _ => none

/-- a literal of a type of numbers; a text that is no number is quoted, and a date is null -/
def number (v : Value) (t : DataType) : String :=
  match v with
  | .int _ => v.plain
  | .float x => if Decimal.isFinite x then v.plain else phrase .null
  | .bool b => if b then "1" else "0"
  | .decimal s | .text s => (Value.numberText? s t).getD (quote s)
  | _ => phrase .null

def nowPhrase : DataType → Phrase
  | .date => .currentDate
  | .time => .currentTime
  | .timestamp => .currentTimestamp
  | _ => .currentDateTime

/-- a constant that is neither empty nor raw, at a type that is known or its own -/
def typed (v : Value) (t : DataType) : String :=
  match t with
  | .date | .time | .dateTime | .timestamp =>
    (v.moment?.bind fun m => temporal? phrase m t).getD (quote v.plain)
  | .varchar | .char | .clob | .uniqueId => quote v.plain
  | .bool => phrase (if v.isTrue then .booleanTrue else .booleanFalse)
  | .integer | .autoInc | .decimal | .float => number phrase quote v t
  | .blob => phrase .null
  | .unknown => v.plain

def ofValue (v : Value) (t : DataType) : String :=
  if v.isEmpty then phrase .null
  else
    match v with
    | .raw sql => sql
    | .now => phrase (nowPhrase t)
    | _ => typed phrase quote v (if t = .unknown then v.naturalType else t)

theorem ofValue_of_isEmpty {v : Value} (h : v.isEmpty = true) (t : DataType) :
    ofValue phrase quote v t = phrase .null := by
  simp [ofValue, h]

end ColumnSql.Literal
