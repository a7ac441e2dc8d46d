import ColumnSql.Literal
import ColumnSql.Proofs.Decimal.Numeral

/-! The forms of literals. Whether a constant is written as a phrase, as a number, in quotes or by
the template of a moment depends on the constant and the type alone; a dialect has the phrases, the
templates and the quotes. -/

namespace ColumnSql

open Decimal Calendar

def Value.numeral? : Value → Option String
  | int n => some (int n).plain
  | float x => if isFinite x then some (float x).plain else none
  | bool b => some (if b then "1" else "0")
  | decimal s | text s => some (String.ofList (withoutPlus (Text.trim s.toList)))
  | _ => none

namespace Literal

inductive Form
  | phrase (p : Phrase)
  | number (s : String)
  | quoted (s : String)
  | moment (template pattern : Phrase) (t : DateTime)
  | verbatim (s : String)

def Form.text (phrase : Phrase → String) (quote : String → String) : Form → String
  | .phrase p => phrase p
  | .number s | .verbatim s => s
  | .quoted s => quote s
  | .moment template pattern t => ofMoment phrase template pattern t

def momentForm? (m : Moment) (t : DataType) : Option Form :=
  match t, m with
  | .time, .time x => some (.moment .timeTemplate .timePattern ⟨.first, x⟩)
  | .time, .dateTime x => some (.moment .timeTemplate .timePattern x)
  | _, .date x => some (.moment .dateTemplate .datePattern ⟨x, .midnight⟩)
  | .date, .dateTime x => some (.moment .dateTemplate .datePattern x)
  | .dateTime, .dateTime x => some (.moment .dateTimeTemplate .dateTimePattern x)
  | .timestamp, .dateTime x => some (.moment .timestampTemplate .timestampPattern x)
  | _, _ => none

def numberForm (v : Value) (t : DataType) : Form :=
  match v with
  | .int _ => .number v.plain
  | .float x => if isFinite x then .number v.plain else .phrase .null
  | .bool b => .number (if b then "1" else "0")
  | .decimal s | .text s => ((Value.numberText? s t).map Form.number).getD (.quoted s)
  | _ => .phrase .null

def typedForm (v : Value) (t : DataType) : Form :=
  match t with
  | .date | .time | .dateTime | .timestamp =>
    (v.moment?.bind fun m => momentForm? m t).getD (.quoted v.plain)
  | .varchar | .char | .clob | .uniqueId => .quoted v.plain
  | .bool => .phrase (if v.isTrue then .booleanTrue else .booleanFalse)
  | .integer | .autoInc | .decimal | .float => numberForm v t
  | .blob => .phrase .null
  | .unknown => .verbatim v.plain

def form (v : Value) (t : DataType) : Form :=
  if v.isEmpty then .phrase .null
  else
    match v with
    | .raw sql => .verbatim sql
    | .now => .phrase (nowPhrase t)
    | _ => typedForm v (if t = .unknown then v.naturalType else t)

section

variable (phrase : Phrase → String) (quote : String → String)

theorem temporal?_eq (m : Moment) (t : DataType) :
    temporal? phrase m t = (momentForm? m t).map (Form.text phrase quote) := by
  cases m <;> cases t <;> rfl

theorem number_eq (v : Value) (t : DataType) :
    number phrase quote v t = (numberForm v t).text phrase quote := by
  cases v with
  | float x =>
    simp only [number, numberForm]
    split <;> rfl
  | decimal s | text s =>
    simp only [number, numberForm]
    cases Value.numberText? s t <;> rfl
  | _ => rfl

theorem typed_eq (v : Value) (t : DataType) :
    typed phrase quote v t = (typedForm v t).text phrase quote := by
  have hm (t : DataType) : (v.moment?.bind fun m => temporal? phrase m t).getD (quote v.plain) =
      ((v.moment?.bind fun m => momentForm? m t).getD (.quoted v.plain)).text phrase quote := by
    simp only [temporal?_eq phrase quote]
    cases v.moment? with
    | none => rfl
    | some m =>
      simp only [Option.bind_some]
      cases momentForm? m t <;> rfl
  cases t with
  | date | time | dateTime | timestamp => exact hm _
  | integer | autoInc | decimal | float => exact number_eq phrase quote v _
  | _ => rfl

theorem ofValue_eq (v : Value) (t : DataType) :
    ofValue phrase quote v t = (form v t).text phrase quote := by
  unfold ofValue form
  split
  · rfl
  · cases v with
    | raw | now => rfl
    | _ => exact typed_eq phrase quote _ _

end

def constantPhrases : List Phrase :=
  [.null, .booleanTrue, .booleanFalse, .currentDate, .currentTime, .currentDateTime,
    .currentTimestamp]

def momentPhrases : List (Phrase × Phrase) :=
  [(.dateTemplate, .datePattern), (.timeTemplate, .timePattern),
    (.dateTimeTemplate, .dateTimePattern), (.timestampTemplate, .timestampPattern)]

/-- what a form can be made of, if it is one of `v` -/
def Form.IsOf (v : Value) : Form → Prop
  | .phrase p => p ∈ constantPhrases
  | .number s => v.numeral? = some s ∧ isDecimal s.toList = true
  | .quoted s => s = v.plain
  | .moment template pattern _ => (template, pattern) ∈ momentPhrases
  | .verbatim s => v = .raw s

theorem isOf_phrase {v : Value} {p : Phrase} (h : p ∈ constantPhrases) : (Form.phrase p).IsOf v := h

theorem isOf_momentForm {v : Value} {m : Moment} {t : DataType} {f : Form}
    (h : momentForm? m t = some f) : f.IsOf v := by
  unfold momentForm? at h
  split at h <;> cases h <;> simp [Form.IsOf, momentPhrases]

/-- The number of a type that a text is, is a number, and is the text without blanks and plus
sign. -/
theorem isDecimal_numberText {s r : String} {t : DataType} (h : Value.numberText? s t = some r) :
    r = String.ofList (withoutPlus (Text.trim s.toList)) ∧ isDecimal r.toList = true := by
  obtain ⟨hn, hr⟩ := Option.ite_none_right_eq_some.1 h
  cases hr
  refine ⟨rfl, ?_⟩
  rw [String.toList_ofList]
  apply isDecimal_withoutPlus
  split at hn
  · exact isDecimal_of_isInteger hn
  · exact hn

theorem isOf_numberForm (v : Value) (t : DataType) : (numberForm v t).IsOf v := by
  have hs (v : Value) (s : String) (hp : s = v.plain)
      (hv : v.numeral? = some (String.ofList (withoutPlus (Text.trim s.toList)))) :
      (((Value.numberText? s t).map Form.number).getD (.quoted s)).IsOf v := by
    cases h : Value.numberText? s t with
    | none => exact hp
    | some r =>
      obtain ⟨hr, hd⟩ := isDecimal_numberText h
      exact ⟨hr ▸ hv, hd⟩
  cases v with
  | int n =>
    refine ⟨rfl, ?_⟩
    rw [Value.plain, String.toList_ofList]
    exact isDecimal_of_isInteger (isInteger_intText _)
  | float x =>
    simp only [numberForm]
    split
    next hx => exact ⟨by simp [Value.numeral?, hx], isDecimal_layoutText _ hx⟩
    next => exact isOf_phrase (by decide)
  | bool b => cases b <;> exact ⟨rfl, by decide⟩
  | decimal s => exact hs (.decimal s) s rfl rfl
  | text s => exact hs (.text s) s rfl rfl
  | _ => exact isOf_phrase (by decide)

/-- Only a constant without a type of its own has no other form than its text. -/
theorem isOf_typedForm (v : Value) {t : DataType} (ht : t ≠ .unknown) : (typedForm v t).IsOf v := by
  have hm (t : DataType) :
      ((v.moment?.bind fun m => momentForm? m t).getD (.quoted v.plain)).IsOf v := by
    cases hb : v.moment?.bind fun m => momentForm? m t with
    | none => exact rfl
    | some f =>
      obtain ⟨m, -, hf⟩ := Option.bind_eq_some_iff.1 hb
      exact isOf_momentForm hf
  cases t with
  | unknown => exact absurd rfl ht
  | date | time | dateTime | timestamp => exact hm _
  | varchar | char | clob | uniqueId => exact rfl
  | bool =>
    simp only [typedForm]
    split <;> exact isOf_phrase (by decide)
  | integer | autoInc | decimal | float => exact isOf_numberForm v _
  | blob => exact isOf_phrase (by decide)

/-- Each form is made of what it may be made of: of numbers that are numbers, of the plain form in
quotes, and as it is only of SQL. -/
theorem isOf_form (v : Value) (t : DataType) : (form v t).IsOf v := by
  by_cases he : v.isEmpty = true
  · rw [form.eq_def, if_pos he]
    exact isOf_phrase (by decide)
  have hn : v.isRaw = false → (if t = .unknown then v.naturalType else t) ≠ .unknown := by
    intro hr
    split
    next => cases v <;> simp_all [Value.naturalType, Value.isRaw, Value.isEmpty]
    next ht => exact ht
  rw [form.eq_def, if_neg he]
  split
  · exact rfl
  · cases t <;> exact isOf_phrase (by decide)
  next hr _ =>
    refine isOf_typedForm v (hn ?_)
    cases v with
    | raw s => exact absurd rfl (hr s)
    | _ => rfl

end Literal

end ColumnSql
