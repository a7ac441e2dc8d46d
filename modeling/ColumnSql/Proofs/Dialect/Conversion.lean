import ColumnSql.Expr.Build
import ColumnSql.Proofs.Dialect.Template
import ColumnSql.Proofs.Expr.Sql
import ColumnSql.Proofs.Lexical.Identifier

/-! Conversions with a format. The format is a part of the template before that is cut at its first
`?` and its placeholders are filled, so only some formats come out as they are. -/

namespace ColumnSql

open Template

namespace Conversion

/-- the place of a format in a conversion; the texts around are those of the dialect -/
inductive Layout
  | plain (before after : String)
  | quotedAfter (before between after : String)
  | quotedBefore (before between after : String)
  /-- the format itself after the operand, where it is the number of a style -/
  | styled (before between after : String)

namespace Layout

def before (format : String) : Layout → String
  | plain a _ | quotedAfter a _ _ | styled a _ _ => a
  | quotedBefore a m _ => a ++ textLiteral format ++ m

def after (format : String) : Layout → String
  | plain _ b | quotedBefore _ _ b => b
  | quotedAfter _ m b => m ++ textLiteral format ++ b
  | styled _ m b => m ++ format ++ b

def fill (l : Layout) (format operand : String) : String :=
  l.before format ++ operand ++ l.after format

def texts : Layout → List String
  | plain a b => [a, b]
  | quotedAfter a m b | quotedBefore a m b | styled a m b => [a, m, b]

/-- The texts have no quotes and no places for operands or parameters. -/
def Fixed (l : Layout) : Prop :=
  ∀ s ∈ l.texts, '?' ∉ s.toList ∧ '\x7b' ∉ s.toList ∧ '\x27' ∉ s.toList

instance (l : Layout) : Decidable l.Fixed :=
  inferInstanceAs (Decidable (∀ s ∈ l.texts, _ ∧ _ ∧ _))

def ofTemplate (s : String) : Layout :=
  plain (String.ofList (parts s).1) (String.ofList (parts s).2)

end Layout

end Conversion

open Conversion

/-- What a dialect makes of a format has a layout. -/
def HasLayout (template : String → String) : Prop :=
  ∃ l : Layout, l.Fixed ∧ ∀ f, template f = l.fill f "?"

namespace HasLayout

theorem const (s : String)
    (h : (Layout.ofTemplate s).Fixed ∧ s = (Layout.ofTemplate s).fill "" "?") :
    HasLayout fun _ => s := ⟨.ofTemplate s, h.1, fun _ => h.2⟩

theorem call (name : String) (h : (Layout.quotedAfter (name ++ "(") ", " ")").Fixed) :
    HasLayout fun f => Conversion.call name (some f) :=
  ⟨_, h, fun f => String.toList_injective (by
    simp [Conversion.call, Layout.fill, Layout.before, Layout.after])⟩

theorem styled (name : String)
    (h : (Layout.styled ("convert(" ++ name ++ ", ") ", " ")").Fixed) :
    HasLayout fun f => Conversion.styled name (some f) :=
  ⟨_, h, fun f => String.toList_injective (by
    simp [Conversion.styled, Layout.fill, Layout.before, Layout.after])⟩

theorem cast (name : Option String) (h : (Layout.ofTemplate (Conversion.cast name)).Fixed ∧
      Conversion.cast name = (Layout.ofTemplate (Conversion.cast name)).fill "" "?") :
    HasLayout fun _ => Conversion.cast name := .const _ h

theorem oracle (dest source : DataType) :
    HasLayout fun f => Conversion.oracle dest source (some f) := by
  cases dest with
  | varchar | char | uniqueId => exact .call "to_char" (by decide)
  | clob => exact .const "to_clob(?)" (by decide)
  | integer | autoInc | decimal | float =>
    simp only [Conversion.oracle, Option.isNone_some, Bool.and_false]
    exact .call "to_number" (by decide)
  | date | dateTime => exact .call "to_date" (by decide)
  | timestamp => exact .call "to_timestamp" (by decide)
  | time | bool | blob | unknown => exact .const "?" (by decide)

theorem sqlServer (dest source : DataType) :
    HasLayout fun f => Conversion.sqlServer dest source (some f) := by
  cases dest with
  | bool => exact .const "convert(bit, ?)" (by decide)
  | integer | autoInc => exact .const "convert(int, ?)" (by decide)
  | decimal => exact .const "convert(decimal, ?)" (by decide)
  | float => exact .const "convert(float, ?)" (by decide)
  | date => exact .styled "date" (by decide)
  | time => exact .styled "time" (by decide)
  | dateTime => exact .styled "datetime" (by decide)
  | timestamp => exact .styled "datetime2" (by decide)
  | varchar | char | uniqueId => exact .styled "nvarchar" (by decide)
  | clob => exact .const "convert(nvarchar(max), ?)" (by decide)
  | blob | unknown => exact .const "?" (by decide)

theorem mySql (dest source : DataType) :
    HasLayout fun f => Conversion.mySql dest source (some f) := by
  cases dest with
  | varchar | char | clob | uniqueId =>
    simp only [Conversion.mySql, Option.isSome_some, Bool.and_true]
    cases source.isTemporal with
    | true => exact .call "DATE_FORMAT" (by decide)
    | false => exact .cast (some "CHAR") (by decide)
  | bool | integer | autoInc => exact .cast (some "SIGNED") (by decide)
  | decimal | float => exact .cast (some "DECIMAL") (by decide)
  | date => exact .cast (some "DATE") (by decide)
  | time => exact .cast (some "TIME") (by decide)
  | dateTime | timestamp => exact .cast (some "DATETIME") (by decide)
  | blob | unknown => exact .cast none (by decide)

theorem postgres (dest source : DataType) :
    HasLayout fun f => Conversion.postgres dest source (some f) := by
  cases dest with
  | varchar | clob | uniqueId =>
    simp only [Conversion.postgres, Option.isSome_some, Bool.true_and]
    cases source.isTemporal || source.isNumeric with
    | true => exact .call "to_char" (by decide)
    | false => exact .cast (some "TEXT") (by decide)
  | bool => exact .cast (some "BOOL") (by decide)
  | integer | autoInc => exact .cast (some "INTEGER") (by decide)
  | decimal => exact .cast (some "DECIMAL") (by decide)
  | float => exact .cast (some "DOUBLE PRECISION") (by decide)
  | date => exact .cast (some "DATE") (by decide)
  | time => exact .cast (some "TIME") (by decide)
  | dateTime | timestamp => exact .cast (some "TIMESTAMP") (by decide)
  | char => exact .cast (some "CHAR") (by decide)
  | blob => exact .cast (some "BYTEA") (by decide)
  | unknown => exact .cast none (by decide)

theorem sqlite (dest source : DataType) :
    HasLayout fun f => Conversion.sqlite dest source (some f) := by
  cases dest with
  | varchar | char | clob | uniqueId =>
    simp only [Conversion.sqlite]
    cases source.isTemporal with
    | true =>
      exact ⟨.quotedBefore "strftime(" ", " ")", by decide, fun f => by
        simp [Layout.fill, Layout.before, Layout.after, String.append_assoc]⟩
    | false => exact .cast (some "TEXT") (by decide)
  | bool | integer | autoInc => exact .cast (some "INTEGER") (by decide)
  | float => exact .cast (some "REAL") (by decide)
  | decimal => exact .cast (some "NUMERIC") (by decide)
  | date => exact .const "date(?)" (by decide)
  | time => exact .const "time(?)" (by decide)
  | dateTime | timestamp => exact .const "datetime(?)" (by decide)
  | blob => exact .cast (some "BLOB") (by decide)
  | unknown => exact .cast none (by decide)

end HasLayout

theorem Builtin.hasLayout_conversion (b : Builtin) (dest source : DataType) :
    HasLayout fun f => b.conversion dest source (some f) := by
  cases b with
  | generic | hsql => exact .const (Conversion.generic dest) (by cases dest <;> decide)
  | oracle => exact .oracle dest source
  | sqlServer => exact .sqlServer dest source
  | mySql => exact .mySql dest source
  | postgres => exact .postgres dest source
  | sqlite => exact .sqlite dest source

def IsStyle (s : String) : Prop := s ≠ "" ∧ ∀ c ∈ s.toList, c.isDigit = true

theorem IsStyle.brace_not_mem {s : String} (h : IsStyle s) : '\x7b' ∉ s.toList := fun hc =>
  absurd (h.2 _ hc) (by decide)

/-- The format comes out as it is. -/
def Conversion.Layout.Inert (format : String) : Layout → Prop
  | plain .. => True
  | quotedAfter .. => ¬ HasPlaceholder format.toList
  | quotedBefore .. => '?' ∉ format.toList ∧ ¬ HasPlaceholder format.toList
  | styled .. => IsStyle format

namespace Template

theorem toList_textLiteral (s : String) :
    (textLiteral s).toList = '\x27' :: (Text.double '\x27' s.toList ++ ['\x27']) := by
  simp [textLiteral, Text.quoted]

theorem hasPlaceholder_literal {a b : List Char} (ha : '\x7b' ∉ a) (hb : '\x7b' ∉ b) (s : String) :
    HasPlaceholder (a ++ (textLiteral s).toList ++ b) ↔ HasPlaceholder s.toList := by
  have he : a ++ (textLiteral s).toList ++ b =
      a ++ '\x27' :: (Text.double '\x27' s.toList ++ '\x27' :: b) := by
    simp [toList_textLiteral]
  rw [he, hasPlaceholder_append_cons isBreak_quote, hasPlaceholder_append_cons isBreak_quote,
    hasPlaceholder_double isBreak_quote]
  simp [not_hasPlaceholder_of_not_mem ha, not_hasPlaceholder_of_not_mem hb]

end Template

namespace Conversion.Layout

variable {l : Layout} {arg : Placeholder → String} {f : String}

namespace Fixed

variable (h : l.Fixed) {s : String} (hs : s ∈ l.texts)
include h hs

theorem mark_not_mem : '?' ∉ s.toList := (h s hs).1

theorem brace_not_mem : '\x7b' ∉ s.toList := (h s hs).2.1

theorem not_hasPlaceholder : ¬ HasPlaceholder s.toList :=
  not_hasPlaceholder_of_not_mem (h.brace_not_mem hs)

end Fixed

theorem mark_mem_before (hl : l.Fixed) :
    '?' ∈ (l.before f).toList ↔ (∃ a m b, l = quotedBefore a m b) ∧ '?' ∈ f.toList := by
  cases l with
  | quotedBefore a m b =>
    have ha := hl.mark_not_mem (s := a) (by simp [texts])
    have hm := hl.mark_not_mem (s := m) (by simp [texts])
    simp [before, toList_textLiteral, Text.mem_double, ha, hm]
  | plain a _ | quotedAfter a _ _ | styled a _ _ =>
    have ha := hl.mark_not_mem (s := a) (by simp [texts])
    simp [before, ha]

theorem hasPlaceholder_before (hl : l.Fixed) :
    HasPlaceholder (l.before f).toList ↔
      (∃ a m b, l = quotedBefore a m b) ∧ HasPlaceholder f.toList := by
  cases l with
  | quotedBefore a m b =>
    have ha := hl.brace_not_mem (s := a) (by simp [texts])
    have hm := hl.brace_not_mem (s := m) (by simp [texts])
    simpa [before] using hasPlaceholder_literal ha hm f
  | plain a _ | quotedAfter a _ _ | styled a _ _ =>
    have ha := hl.not_hasPlaceholder (s := a) (by simp [texts])
    simp [before, ha]

theorem substitute_of_inert (arg : Placeholder → String) (hl : l.Fixed) (h : l.Inert f) :
    '?' ∉ (l.before f).toList ∧ substitute arg (l.before f).toList = l.before f ∧
      substitute arg (l.after f).toList = l.after f := by
  have hb : ¬ HasPlaceholder (l.before f).toList := by
    rw [hasPlaceholder_before hl]
    rintro ⟨⟨a, m, b, rfl⟩, hf⟩
    exact h.2 hf
  have ha : ¬ HasPlaceholder (l.after f).toList := by
    cases l with
    | plain _ b | quotedBefore _ _ b => exact hl.not_hasPlaceholder (s := b) (by simp [texts])
    | quotedAfter a m b =>
      have hm := hl.brace_not_mem (s := m) (by simp [texts])
      have hb := hl.brace_not_mem (s := b) (by simp [texts])
      rw [after, String.toList_append, String.toList_append, hasPlaceholder_literal hm hb]
      exact h
    | styled a m b =>
      have hm := hl.brace_not_mem (s := m) (by simp [texts])
      have hb := hl.brace_not_mem (s := b) (by simp [texts])
      have hf := IsStyle.brace_not_mem h
      exact not_hasPlaceholder_of_not_mem (by simp [after, hm, hb, hf])
  refine ⟨?_, ?_, ?_⟩
  · rw [mark_mem_before hl]
    rintro ⟨⟨a, m, b, rfl⟩, hf⟩
    exact h.1 hf
  · rw [substitute_of_not_hasPlaceholder hb, String.ofList_toList]
  · rw [substitute_of_not_hasPlaceholder ha, String.ofList_toList]

theorem filled_of_inert (hl : l.Fixed) (h : l.Inert f) (x : String) :
    filled (l.fill f "?") arg x = l.fill f x := by
  obtain ⟨hm, hb, ha⟩ := substitute_of_inert arg hl h
  rw [filled_eq (b := (l.after f).toList) (by simp [fill]) hm, hb, ha, fill]

/-- A mark in a format before the operand takes the operand's place. -/
theorem filled_ne_of_mark {a m b : String} (hl : (quotedBefore a m b).Fixed) (h : '?' ∈ f.toList) :
    filled ((quotedBefore a m b).fill f "?") arg "D" ≠ (quotedBefore a m b).fill f "D" := by
  have hb := hl.not_hasPlaceholder (s := b) (by simp [texts])
  obtain ⟨u, v, he, hu⟩ := List.eq_append_cons_of_mem ((mark_mem_before hl).2 ⟨⟨a, m, b, rfl⟩, h⟩)
  intro hf
  rw [filled_eq (a := u) (b := v ++ '?' :: b.toList) (by simp [fill, he, after]) hu,
    substitute_append_cons isBreak_mark, substitute_of_not_hasPlaceholder hb,
    String.ofList_toList, fill, after, ← String.append_assoc, String.append_left_inj] at hf
  have hf := congrArg (fun s => s.toList.reverse) hf
  simp at hf

theorem inert_of_filled (hl : l.Fixed)
    (ha : ∀ p, ∃ c r, (arg p).toList = c :: r ∧ c ≠ '\x7b')
    (hs : ∀ a m b, l = styled a m b → IsStyle f)
    (h : filled (l.fill f "?") arg "D" = l.fill f "D") : l.Inert f := by
  cases l with
  | plain => trivial
  | styled a m b => exact hs a m b rfl
  | quotedAfter a m b =>
    have hm := hl.brace_not_mem (s := m) (by simp [texts])
    have hb := hl.brace_not_mem (s := b) (by simp [texts])
    have hn := hl.not_hasPlaceholder (s := a) (by simp [texts])
    have hq := hl.mark_not_mem (s := a) (by simp [texts])
    rw [filled_eq (a := a.toList) (b := m.toList ++ (textLiteral f).toList ++ b.toList)
      (by simp [fill, before, after]) hq, substitute_of_not_hasPlaceholder hn,
      String.ofList_toList, fill, before, String.append_right_inj] at h
    have h := not_hasPlaceholder_of_substitute ha (h.trans (by simp [after, String.append_assoc]))
    rwa [hasPlaceholder_literal hm hb] at h
  | quotedBefore a m b =>
    have hq : '?' ∉ f.toList := fun hq => filled_ne_of_mark hl hq h
    have hm := hl.brace_not_mem (s := m) (by simp [texts])
    have hb := hl.brace_not_mem (s := a) (by simp [texts])
    have hn := hl.not_hasPlaceholder (s := b) (by simp [texts])
    have hq' : '?' ∉ (a.toList ++ (textLiteral f).toList ++ m.toList) := by
      simpa [before] using (not_congr (mark_mem_before hl)).2 fun h => hq h.2
    rw [filled_eq (b := b.toList) (by simp [fill, before, after]) hq',
      substitute_of_not_hasPlaceholder hn, String.ofList_toList, fill, after,
      String.append_left_inj, String.append_left_inj] at h
    have h := not_hasPlaceholder_of_substitute ha (h.trans (by simp [before, String.append_assoc]))
    rw [hasPlaceholder_literal hb hm] at h
    exact ⟨hq, h⟩

end Conversion.Layout

/-- The literal of a text is one literal and reads back as it, if no other quote follows. -/
def ReadsBack (s : String) : Prop :=
  ∀ rest, '\x27' ∉ rest.head? → ∃ r, (textLiteral s).toList ++ rest = '\x27' :: r ∧
    Lexical.readQuoted '\x27' r = some (s.toList, rest)

theorem textLiteral_reads_back (s : String) : ReadsBack s := fun rest h =>
  ⟨Text.double '\x27' s.toList ++ '\x27' :: rest, by simp [toList_textLiteral],
    Lexical.readQuoted_double '\x27' s.toList h⟩

namespace Builtin

/-- Placeholders of conversions have no parameters, so that null is put in them. -/
theorem exists_argument (b : Builtin) (type : DataType) (p : Placeholder) :
    ∃ c r, ((Target.mk (some b.dialect)).argument [] type p).toList = c :: r ∧ c ≠ '\x7b' := by
  have hn : (Target.mk (some b.dialect)).phrase .null = "null" := by cases b <;> decide +kernel
  have h : (Target.mk (some b.dialect)).argument [] type p = "null" := by
    simp [Target.argument, hn]
  exact ⟨'n', ['u', 'l', 'l'], by rw [h]; rfl, by decide⟩

theorem sql_convertTo (b : Builtin) (e : Expr) (dest : DataType) (format : Option String)
    (place : Place) (ctx : Context) :
    (e.convertTo dest format place).sql ⟨some b.dialect⟩ ctx =
      filled (b.conversion dest e.dataType format)
        ((Target.mk (some b.dialect)).argument [] .unknown) (e.sql ⟨some b.dialect⟩ ctx.inner) :=
  Node.sql_convert ⟨some b.dialect⟩ ctx e dest format

/-- A conversion with a format has texts of the dialect around its operand, and the format at most
once in a place of its own: as a literal that reads back, or bare as the number of a style. It is
written so for all operands exactly if the format has no placeholders, and no `?` where it stands
before the operand, and is a number where it is a style. -/
theorem sql_convertTo_format (b : Builtin) (dest source : DataType) :
    ∃ l : Layout, l.Fixed ∧ ∀ f : String, ReadsBack f ∧ (l.Inert f ↔
      (∀ before between after, l = .styled before between after → IsStyle f) ∧
        ∀ (e : Expr) (place : Place) (ctx : Context), e.dataType = source →
          (e.convertTo dest (some f) place).sql ⟨some b.dialect⟩ ctx =
            l.fill f (e.sql ⟨some b.dialect⟩ ctx.inner)) := by
  obtain ⟨l, hl, ht⟩ := b.hasLayout_conversion dest source
  have ht : ∀ f, b.conversion dest source (some f) = l.fill f "?" := ht
  refine ⟨l, hl, fun f => ⟨textLiteral_reads_back f, fun h => ⟨?_, ?_⟩, fun ⟨hs, h⟩ => ?_⟩⟩
  · rintro _ _ _ rfl
    exact h
  · rintro e place ctx rfl
    rw [b.sql_convertTo, ht f, Layout.filled_of_inert hl h]
  · have h := h (.column ⟨none, "D", source⟩ []) [] .standard rfl
    have hd : (Expr.column ⟨none, "D", source⟩ []).sql ⟨some b.dialect⟩ Context.standard.inner =
        "D" := by
      have hn : Identifier.needsQuotes "D" = false := by decide +kernel
      rw [Expr.column, Expr.ofNode, Expr.sql_mk, Node.sql_column]
      simp [Column.sql, b.name_eq, hn]
    rw [b.sql_convertTo, hd] at h
    exact Layout.inert_of_filled hl (b.exists_argument .unknown) hs ((ht f) ▸ h)

/-- In a format before the operand, `?` is taken for the place of the operand. -/
theorem sql_convertTo_mark :
    let e := Expr.column ⟨none, "D", .date⟩ []
    let sql := (e.convertTo .varchar (some "?") []).sql ⟨some sqlite.dialect⟩ .standard
    sql = "strftime('D', ?)" ∧ sql ≠ "strftime('?', D)" := by
  decide +kernel

end Builtin

end ColumnSql
