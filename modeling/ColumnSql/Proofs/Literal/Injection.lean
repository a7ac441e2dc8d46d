import ColumnSql.Dialect.Basic
import ColumnSql.Proofs.Calendar.Pattern
import ColumnSql.Proofs.Lexical.Identifier
import ColumnSql.Proofs.Literal.Form

/-! No constant gets out of its literal. Whether it fits its type or not, a constant that is no SQL
is written as a phrase of the dialect, as a number, as one literal of a text, or as a template of
the dialect around the digits of a moment. -/

namespace ColumnSql

open Calendar Decimal

namespace Lexical

/-- the text that a literal at the start of SQL is, and what follows it; a mark of national texts
is passed over -/
def readText : List Char → Option (List Char × List Char)
  | '\x27' :: s => readQuoted '\x27' s
  | 'N' :: '\x27' :: s => readQuoted '\x27' s
  | _ => none

theorem readText_textLiteral (s : String) :
    readText (textLiteral s).toList = some (s.toList, []) := by
  have hn : '\x27' ∉ ([] : List Char).head? := by simp
  simpa [textLiteral, Text.quoted, readText] using readQuoted_double '\x27' s.toList hn

theorem readText_national (s : String) :
    readText ("N" ++ textLiteral s).toList = some (s.toList, []) := by
  have hn : '\x27' ∉ ([] : List Char).head? := by simp
  simpa [textLiteral, Text.quoted, readText] using readQuoted_double '\x27' s.toList hn

theorem readText_quoteText (b : Builtin) (s : String) :
    readText (b.quoteText s).toList = some (s.toList, []) := by
  cases b with
  | sqlServer =>
    simp only [Builtin.quoteText, nationalLiteral]
    split
    · exact readText_textLiteral s
    · exact readText_national s
  | _ => exact readText_textLiteral s

end Lexical

open Lexical (readText readText_quoteText)

namespace Literal

def place : List Char := ['\x7b', '0', '\x7d']

theorem momentPhrases_builtin (b : Builtin) : ∀ x ∈ momentPhrases,
    b.template x.1 ≠ "" ∧ isNumericPattern (b.template x.2) = true := by
  cases b <;> decide +kernel

/-- A moment is written with digits and a few other characters in the place of the template. -/
theorem exists_ofMoment (b : Builtin) {template pattern : Phrase}
    (h : (template, pattern) ∈ momentPhrases) (t : DateTime) :
    ∃ s, MomentChars s ∧ ofMoment b.template template pattern t =
      String.ofList (Text.replaceAll place s (b.template template).toList) := by
  obtain ⟨ht, hp⟩ := momentPhrases_builtin b _ h
  obtain ⟨s, hs, hc⟩ := exists_format hp t
  have ht : (b.template template).isEmpty = false := by simpa using ht
  refine ⟨s.toList, hc, ?_⟩
  simp [ofMoment, hs, ht, place]

/-- A literal of a constant that is not SQL has one of four forms. It is a phrase for null, for a
truth value or for the time of the database; or it is the number that the constant is, by the
grammar of numbers, which takes the digits of all scripts; or it is the plain form in quotes, and
reads back as it to its end; or it is a template for moments, in whose places stand digits, blanks
and `+`, `-`, `:`, `/`, `.` only. It is never the plain form as it is. -/
theorem literal_forms (b : Builtin) {v : Value} (hv : v.isRaw = false) (t : DataType) :
    let sql := b.dialect.literal v t
    match form v t with
    | .phrase p => p ∈ constantPhrases ∧ sql = b.template p
    | .number s => v.numeral? = some s ∧ isDecimal s.toList = true ∧ sql = s
    | .quoted s =>
      s = v.plain ∧ sql = b.quoteText s ∧ readText sql.toList = some (s.toList, [])
    | .moment template pattern _ =>
      (template, pattern) ∈ momentPhrases ∧ ∃ s, MomentChars s ∧
        sql = String.ofList (Text.replaceAll place s (b.template template).toList)
    | .verbatim _ => False := by
  intro sql
  have hs : sql = (form v t).text b.template b.quoteText := ofValue_eq b.template b.quoteText v t
  have hf := isOf_form v t
  cases h : form v t with
  | phrase p =>
    rw [h] at hs hf
    exact ⟨hf, hs⟩
  | number s =>
    rw [h] at hs hf
    obtain ⟨hn, hd⟩ := hf
    exact ⟨hn, hd, hs⟩
  | quoted s =>
    rw [h] at hs hf
    have hs : sql = b.quoteText s := hs
    exact ⟨hf, hs, hs ▸ readText_quoteText b s⟩
  | moment template pattern x =>
    rw [h] at hs hf
    obtain ⟨s, hc, hm⟩ := exists_ofMoment b hf x
    exact ⟨hf, s, hc, hs.trans hm⟩
  | verbatim s =>
    rw [h] at hf
    obtain rfl : v = .raw s := hf
    cases hv

theorem literal_forms_national :
    let sql := Builtin.sqlServer.dialect.literal (.text "1' or 'ł' = 'ł") .integer
    sql = Builtin.sqlServer.quoteText "1' or 'ł' = 'ł" ∧
      readText sql.toList = some ("1' or 'ł' = 'ł".toList, []) := by
  have hf : form (.text "1' or 'ł' = 'ł") .integer = .quoted "1' or 'ł' = 'ł" := by
    have hn : Value.numberText? "1' or 'ł' = 'ł" .integer = none := rfl
    simp [form, Value.isEmpty, typedForm, numberForm, hn]
  have h := literal_forms .sqlServer (v := .text "1' or 'ł' = 'ł") rfl .integer
  rw [hf] at h
  exact ⟨h.2.1, h.2.2⟩

end Literal

end ColumnSql
