import ColumnSql.Proofs.Lexical.Literal

/-! What an expression takes from a dialect is balanced: literals, names in quotes, templates of
functions and conversions without a format. -/

namespace ColumnSql

open Lexical

def Builtin.quotes : Builtin → Quotes
  | sqlServer => ⟨'[', ']', by decide, by decide⟩
  | mySql | sqlite => ⟨'\x60', '\x60', by decide, by decide⟩
  | oracle | postgres | generic | hsql => standard

namespace Lexical

/-- The template is balanced as that of a function. Its characters are taken from literals. -/
def AcceptsFunction (template : String) : Prop :=
  ∃ s, template = String.ofList s ∧ accepts (functionTokens s) = true

namespace AcceptsFunction

theorem append₂ {a b : List Char} (h : accepts (functionTokens (a ++ b)) = true) :
    AcceptsFunction (String.ofList a ++ String.ofList b) := ⟨_, String.ofList_append.symm, h⟩

theorem append₃ {a b c : List Char} (h : accepts (functionTokens (a ++ b ++ c)) = true) :
    AcceptsFunction (String.ofList a ++ String.ofList b ++ String.ofList c) := by
  rw [← String.ofList_append]
  exact append₂ h

theorem generic (dest : DataType) : AcceptsFunction (Conversion.generic dest) := by
  cases dest with
  | unknown => exact ⟨_, rfl, rfl⟩
  | _ => exact append₃ rfl

theorem oracle (dest source : DataType) :
    AcceptsFunction (Conversion.oracle dest source none) := by
  cases dest with
  | integer | autoInc | decimal | float =>
    rw [Conversion.oracle]
    split
    · exact ⟨_, rfl, rfl⟩
    · exact append₂ rfl
  | varchar | char | uniqueId | date | dateTime | timestamp => exact append₂ rfl
  | _ => exact ⟨_, rfl, rfl⟩

theorem sqlServerText (source : DataType) :
    AcceptsFunction (Conversion.sqlServerText source none) := by
  cases source <;> exact ⟨_, rfl, rfl⟩

theorem sqlServer (dest source : DataType) :
    AcceptsFunction (Conversion.sqlServer dest source none) := by
  cases dest with
  | varchar | char | uniqueId => exact sqlServerText source
  | date | time | dateTime | timestamp => exact append₃ rfl
  | _ => exact ⟨_, rfl, rfl⟩

theorem mySql (dest source : DataType) : AcceptsFunction (Conversion.mySql dest source none) := by
  cases dest with
  | varchar | char | clob | uniqueId =>
    rw [Conversion.mySql, Option.isSome_none, Bool.and_false, if_neg (by decide)]
    exact append₃ rfl
  | blob | unknown => exact ⟨_, rfl, rfl⟩
  | _ => exact append₃ rfl

theorem postgres (dest source : DataType) :
    AcceptsFunction (Conversion.postgres dest source none) := by
  cases dest with
  | unknown => exact ⟨_, rfl, rfl⟩
  | _ => exact append₃ rfl

theorem sqlite (dest source : DataType) : AcceptsFunction (Conversion.sqlite dest source none) := by
  cases dest with
  | date | time | dateTime | timestamp | unknown => exact ⟨_, rfl, rfl⟩
  | _ => exact append₃ rfl

theorem builtin (b : Builtin) (dest source : DataType) :
    AcceptsFunction (b.conversion dest source none) := by
  cases b with
  | generic | hsql => exact generic dest
  | oracle => exact oracle dest source
  | sqlServer => exact sqlServer dest source
  | mySql => exact mySql dest source
  | postgres => exact postgres dest source
  | sqlite => exact sqlite dest source

end AcceptsFunction

/-- What the target gives for an expression is balanced with the quotes `q`. -/
structure Safe (q : Quotes) (t : Target) : Prop where
  phrase : AcceptsAll t.phrase
  literal (v : Value) (type : DataType) : v.isRaw = false → Balanced q (t.literal v type)
  raw (sql : String) (type : DataType) : t.literal (.raw sql) type = sql
  name (s : String) : (∀ c ∈ s.toList, c ∉ nameQuotes) → Balanced q (t.name s)
  identifier (s : String) : Balanced q (t.identifier s)
  conversion (dest source : DataType) : AcceptsFunction (t.conversion dest source none)

/-- A name that needs no quotes has none of those around texts and no parentheses. -/
theorem plain_of_needsQuotes {s : String} (hn : Identifier.needsQuotes s = false)
    (hs : ∀ c ∈ s.toList, c ∉ nameQuotes) : Plain s.toList := by
  rw [Identifier.needsQuotes, Bool.or_eq_false_iff, List.any_eq_false] at hn
  intro c hc
  have hi : c ∉ Identifier.illegal := by simpa using hn.2 c hc
  refine isPlain_iff.2 ⟨?_, ?_, ?_, hs c hc⟩ <;>
  · rintro rfl
    exact hi (by decide)

theorem Balanced.quoteIdentifier (b : Builtin) (s : String) :
    Balanced b.quotes (b.quoteIdentifier s) := by
  cases b <;> exact .quoted .name s

theorem Balanced.quoteText {q : Quotes} (b : Builtin) (s : String) :
    Balanced q (b.quoteText s) := by
  have ht : Balanced q (textLiteral s) := .quoted .text s
  cases b with
  | sqlServer =>
    change Balanced q (nationalLiteral s)
    unfold nationalLiteral
    split
    · exact ht
    · exact Balanced.append (.ofPlain (by decide)) ht
  | _ => exact ht

theorem safe_builtin (b : Builtin) : Safe b.quotes ⟨some b.dialect⟩ where
  phrase p := by
    rcases Target.phrase_eq_or b.dialect p with h | ⟨-, h⟩
    · rw [h]
      exact acceptsAll_template p
    · rw [h]
      exact acceptsAll_builtin b p
  literal v type hv := balanced_literal (acceptsAll_builtin b) (.quoteText b) hv type
  raw _ _ := rfl
  name s hs := by
    change Balanced _ (if Identifier.needsQuotes s then b.quoteIdentifier s else s)
    split
    · exact .quoteIdentifier b s
    next hn => exact .ofPlain (plain_of_needsQuotes (by simpa using hn) hs)
  identifier s := .quoteIdentifier b s
  conversion dest source := .builtin b dest source

end Lexical

end ColumnSql
