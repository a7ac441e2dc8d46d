import ColumnSql.Dialect.PhraseTable
import ColumnSql.Proofs.Expr.Context
import ColumnSql.Proofs.Literal.Form

/-! Empty templates. Where SQL is written by a template, an empty one means the generic one. The
texts of constants, the patterns of moments and the quotes are taken as they are: of these, an empty
one shows. -/

namespace ColumnSql

namespace Phrase

/-- the templates with the generic ones for those that are empty -/
def completed (f : Phrase → String) (p : Phrase) : String :=
  if (f p).isEmpty then p.template else f p

def hasPlace (template : String) : Bool :=
  (Text.splitFirst ['\x7b', '0', '\x7d'] template.toList).isSome

/-- whether an empty template of `p` is another than the generic one: it is taken as it is, or it is
the pattern of a text for which there is a place -/
def shows (f : Phrase → String) (p : Phrase) : Bool :=
  match p with
  | null | quotesOpen | quotesClose | booleanTrue | booleanFalse | currentDate | currentTime
  | currentDateTime | currentTimestamp => true
  | datePattern => hasPlace (completed f dateTemplate)
  | timePattern => hasPlace (completed f timeTemplate)
  | dateTimePattern => hasPlace (completed f dateTimeTemplate)
  | timestampPattern => hasPlace (completed f timestampTemplate)
  | _ => false

def sample (p : Phrase) : Expr :=
  let constant (v : Value) (t : DataType) : Expr := .ofNode (.constant v t) []
  match p with
  | quotesOpen | quotesClose => .ofNode (.named (constant (.raw "") .unknown) "") []
  | booleanTrue => constant (.bool true) .bool
  | booleanFalse => constant (.bool false) .bool
  | currentDate => constant .now .date
  | currentTime => constant .now .time
  | currentDateTime => constant .now .dateTime
  | currentTimestamp => constant .now .timestamp
  | datePattern => constant (.date .first) .date
  | timePattern => constant (.time .midnight) .time
  | dateTimePattern => constant (.dateTime ⟨.first, .midnight⟩) .dateTime
  | timestampPattern => constant (.dateTime ⟨.first, .midnight⟩) .timestamp
  | _ => constant .null .unknown

/-- The templates differ in such that do not show. -/
structure Alike (f g : Phrase → String) : Prop where
  completed : completed f = completed g
  shown : ∀ p, shows f p = true → f p = g p

variable {f g : Phrase → String} {p : Phrase}

theorem completed_of_empty (h : f p = "") : completed f p = p.template := if_pos (by simp [h])

theorem completed_of_ne (h : f p ≠ "") : completed f p = f p := if_neg (by simpa using h)

theorem completed_ne_empty (f : Phrase → String) (p : Phrase) : completed f p ≠ "" := by
  by_cases h : f p = ""
  · exact completed_of_empty h ▸ p.template_ne_empty
  · rwa [completed_of_ne h]

theorem length_lt_completed (h : f p = "") : (f p).length < (completed f p).length := by
  rw [h]
  exact Nat.pos_of_ne_zero fun h₀ => completed_ne_empty f p (String.length_eq_zero_iff.1 h₀)

theorem length_le_completed (f : Phrase → String) (p : Phrase) :
    (f p).length ≤ (completed f p).length := by
  by_cases h : f p = ""
  · exact Nat.le_of_lt (length_lt_completed h)
  · exact Nat.le_of_eq (congrArg _ (completed_of_ne h).symm)

theorem quotes_ne_completed (h : f .quotesOpen = "" ∨ f .quotesClose = "") :
    f .quotesOpen ++ f .quotesClose ≠ completed f .quotesOpen ++ completed f .quotesClose := by
  intro hc
  have hl := congrArg String.length hc
  rw [String.length_append, String.length_append] at hl
  have h₁ := length_le_completed f .quotesOpen
  have h₂ := length_le_completed f .quotesClose
  obtain h | h := h
  · have := length_lt_completed h
    omega
  · have := length_lt_completed h
    omega

theorem completed_completed (f : Phrase → String) : completed (completed f) = completed f :=
  funext fun p => completed_of_ne (completed_ne_empty f p)

theorem alike_completed (h : ∀ p, shows f p = true → f p ≠ "") : Alike f (completed f) where
  completed := (completed_completed f).symm
  shown p hp := (completed_of_ne (h p hp)).symm

end Phrase

namespace Literal

open Phrase (completed hasPlace shows)

def momentText (phrase : Phrase → String) (pattern : Phrase) (t : Calendar.DateTime) : String :=
  ((t.format? (phrase pattern)).orElse fun _ => t.format? pattern.template).getD ""

theorem ofMoment_eq (f : Phrase → String) (template pattern : Phrase) (t : Calendar.DateTime) :
    ofMoment f template pattern t =
      String.ofList (Text.replaceAll ['\x7b', '0', '\x7d'] (momentText f pattern t).toList
        (completed f template).toList) := rfl

section

variable {f g : Phrase → String} (h : Phrase.Alike f g) (quote : String → String)
include h

theorem ofMoment_congr (template pattern : Phrase) (t : Calendar.DateTime)
    (hp : shows f pattern = hasPlace (completed f template)) :
    ofMoment f template pattern t = ofMoment g template pattern t := by
  rw [ofMoment_eq, ofMoment_eq, ← h.completed]
  cases hs : hasPlace (completed f template) with
  | true => rw [momentText, momentText, h.shown pattern (hp.trans hs)]
  | false =>
    -- without a place, the texts by the two patterns do not matter
    have hn := Option.isSome_eq_false_iff.1 hs
    rw [Option.isNone_iff_eq_none] at hn
    rw [Text.replaceAll_of_splitFirst _ hn, Text.replaceAll_of_splitFirst _ hn]

theorem ofValue_congr : ofValue f quote = ofValue g quote := by
  funext v t
  have hf := isOf_form v t
  rw [ofValue_eq, ofValue_eq]
  cases hs : form v t with
  | phrase p =>
    rw [hs] at hf
    have hp : p ∈ constantPhrases := hf
    simp only [constantPhrases, List.mem_cons, List.not_mem_nil, or_false] at hp
    rcases hp with rfl | rfl | rfl | rfl | rfl | rfl | rfl <;> exact h.shown _ rfl
  | moment template pattern x =>
    rw [hs] at hf
    have hp : (template, pattern) ∈ momentPhrases := hf
    simp only [momentPhrases, List.mem_cons, List.not_mem_nil, or_false, Prod.mk.injEq] at hp
    rcases hp with ⟨rfl, rfl⟩ | ⟨rfl, rfl⟩ | ⟨rfl, rfl⟩ | ⟨rfl, rfl⟩ <;>
      exact ofMoment_congr h _ _ x rfl
  | number | quoted | verbatim => rfl

end

/-- A moment by an empty pattern is no text, and one by the generic pattern is: where the template
has a place for it, the two differ. -/
theorem ofMoment_completed_ne {f : Phrase → String} (template pattern : Phrase)
    (t : Calendar.DateTime) (he : f pattern = "")
    (hp : hasPlace (completed f template) = true)
    (ht : momentText Phrase.template pattern t ≠ "") :
    ofMoment f template pattern t ≠ ofMoment (completed f) template pattern t := by
  have h₀ : momentText f pattern t = "" := by rw [momentText, he]; rfl
  have h₁ : momentText (completed f) pattern t = momentText Phrase.template pattern t := by
    rw [momentText, Phrase.completed_of_empty he, momentText]
  have hl : (momentText f pattern t).toList.length <
      (momentText (completed f) pattern t).toList.length := by
    rw [h₀, h₁]
    exact List.length_pos_iff.2 (by simpa using ht)
  rw [ofMoment_eq, ofMoment_eq, Phrase.completed_completed]
  intro hc
  have := Text.length_replaceAll_lt (p := ['\x7b', '0', '\x7d']) (by simp) hl hp
  rw [String.ofList_inj.1 hc] at this
  exact Nat.lt_irrefl _ this

end Literal

open Phrase (completed shows)

namespace Dialect

def withPhrases (d : Dialect) (f : Phrase → String) : Dialect where
  name := d.name
  phrase := f
  conversion := d.conversion
  needsQuotes := d.needsQuotes
  quoteText := d.quoteText

def SameSql (d d' : Dialect) : Prop :=
  ∀ (e : Expr) (ctx : Context), e.sql ⟨some d⟩ ctx = e.sql ⟨some d'⟩ ctx

variable (d : Dialect) {f g : Phrase → String}

theorem phrase_withPhrases (f : Phrase → String) (p : Phrase) :
    (Target.mk (some (d.withPhrases f))).phrase p =
      if p.takesOperand && !Phrase.hasMark (completed f p) then p.template else completed f p := by
  change (if (f p).isEmpty || (p.takesOperand && !Phrase.hasMark (f p)) then p.template
    else f p) = _
  by_cases h : f p = ""
  · rw [Phrase.completed_of_empty h, ite_self, h]
    rfl
  · rw [Phrase.completed_of_ne h, String.isEmpty_eq_false_iff.2 h, Bool.false_or]

theorem alike_withPhrases (h : Phrase.Alike f g) :
    Target.Alike ⟨some (d.withPhrases f)⟩ ⟨some (d.withPhrases g)⟩ := by
  have hq : (d.withPhrases f).quoteIdentifier = (d.withPhrases g).quoteIdentifier := by
    change Identifier.quoteWith (f .quotesOpen) (f .quotesClose) =
      Identifier.quoteWith (g .quotesOpen) (g .quotesClose)
    rw [h.shown .quotesOpen rfl, h.shown .quotesClose rfl]
  exact {
    phrase := funext fun p => by rw [phrase_withPhrases, phrase_withPhrases, h.completed]
    literal := Literal.ofValue_congr h d.quoteText
    name := funext fun s => by
      change (if _ then (d.withPhrases f).quoteIdentifier s else s) = _
      rw [hq]
      rfl
    identifier := hq
    conversion := rfl }

theorem sql_constant_ne {v : Value} {t : DataType} (ctx : Context)
    (h : Literal.ofValue f d.quoteText v t ≠ Literal.ofValue g d.quoteText v t) :
    (Expr.ofNode (.constant v t) []).sql ⟨some (d.withPhrases f)⟩ ctx ≠
      (Expr.ofNode (.constant v t) []).sql ⟨some (d.withPhrases g)⟩ ctx := by
  rw [Expr.ofNode, Expr.sql_mk, Expr.sql_mk, Node.sql_constant, Node.sql_constant]
  exact h

theorem quoteIdentifier_empty (f : Phrase → String) :
    (d.withPhrases f).quoteIdentifier "" = f .quotesOpen ++ f .quotesClose := by
  change Identifier.quoteWith (f .quotesOpen) (f .quotesClose) "" = _
  rw [Identifier.quoteWith]
  split
  next h => rw [String.isEmpty_iff.1 h]
  next => exact congrArg (· ++ _) (String.append_empty ..)

theorem sql_named_ne (h : completed f = completed g)
    (hq : f .quotesOpen ++ f .quotesClose ≠ g .quotesOpen ++ g .quotesClose) :
    (Phrase.sample .quotesOpen).sql ⟨some (d.withPhrases f)⟩ .aliases ≠
      (Phrase.sample .quotesOpen).sql ⟨some (d.withPhrases g)⟩ .aliases := by
  -- the quotes are around an empty name, so that closing quotes are not looked for inside
  have hn (f : Phrase → String) :
      (Phrase.sample .quotesOpen).sql ⟨some (d.withPhrases f)⟩ .aliases =
        (Target.mk (some (d.withPhrases f))).phrase .renameColumn ++
          (f .quotesOpen ++ f .quotesClose) := by
    rw [← d.quoteIdentifier_empty]
    exact (Node.sql_named ..).trans (if_pos (by decide))
  rw [hn, hn, phrase_withPhrases, phrase_withPhrases, h]
  exact fun hc => hq ((String.append_right_inj _).1 hc)

theorem sql_sample_ne {p : Phrase} (hs : shows f p = true) (he : f p = "") :
    p.sample.sql ⟨some (d.withPhrases f)⟩ .aliases ≠
      p.sample.sql ⟨some (d.withPhrases (completed f))⟩ .aliases := by
  have hp : f p ≠ completed f p := by
    rw [he]
    exact (Phrase.completed_ne_empty f p).symm
  have hm (template : Phrase) (t : Calendar.DateTime) :=
    Literal.ofMoment_completed_ne template p t he
  have hc := (Phrase.completed_completed f).symm
  cases p with
  | null | booleanTrue | booleanFalse | currentDate | currentTime | currentDateTime
  | currentTimestamp => exact d.sql_constant_ne _ hp
  | datePattern => exact d.sql_constant_ne _ (hm .dateTemplate _ hs (by decide +kernel))
  | timePattern => exact d.sql_constant_ne _ (hm .timeTemplate _ hs (by decide +kernel))
  | dateTimePattern => exact d.sql_constant_ne _ (hm .dateTimeTemplate _ hs (by decide +kernel))
  | timestampPattern => exact d.sql_constant_ne _ (hm .timestampTemplate _ hs (by decide +kernel))
  | quotesOpen => exact d.sql_named_ne hc (Phrase.quotes_ne_completed (.inl he))
  | quotesClose => exact d.sql_named_ne hc (Phrase.quotes_ne_completed (.inr he))
  -- all others are looked up with the generic template behind them
  | _ => cases hs

theorem sameSql_completed_iff :
    SameSql (d.withPhrases f) (d.withPhrases (completed f)) ↔
      ∀ p, shows f p = true → f p ≠ "" := by
  constructor
  · intro h p hs he
    exact d.sql_sample_ne hs he (h p.sample .aliases)
  · intro h e ctx
    exact e.sql_congr_target (d.alike_withPhrases (Phrase.alike_completed h)) ctx

end Dialect

namespace PhraseTable

def completed (t : PhraseTable) : PhraseTable where
  base := t.base
  override p := if (t.phrase p).isEmpty then some p.template else t.override p

theorem phrase_completed (t : PhraseTable) : t.completed.phrase = Phrase.completed t.phrase := by
  funext p
  change (if (t.phrase p).isEmpty then some p.template else t.override p).getD _ = _
  rw [Phrase.completed]
  split <;> rfl

theorem dialect_eq_withPhrases (t : PhraseTable) :
    t.dialect = t.base.dialect.withPhrases t.phrase := rfl

end PhraseTable

/-- The empty templates of a table, or of a dialect of other templates, mean the generic ones in all
SQL if and only if none of those that show is empty. -/
theorem sql_empty_templates (table : PhraseTable) (d : Dialect) (f : Phrase → String) :
    (table.dialect.SameSql table.completed.dialect ↔
      ∀ p, shows table.phrase p = true → table.phrase p ≠ "") ∧
    ((d.withPhrases f).SameSql (d.withPhrases (completed f)) ↔
      ∀ p, shows f p = true → f p ≠ "") := by
  refine ⟨?_, d.sameSql_completed_iff⟩
  rw [table.dialect_eq_withPhrases, table.completed.dialect_eq_withPhrases, table.phrase_completed]
  exact table.base.dialect.sameSql_completed_iff

theorem sql_empty_null :
    ∃ table, PhraseTable.ofOverrides .generic [(.null, "")] = .ok table ∧
      ∃ (e : Expr) (ctx : Context), e.sql ⟨some table.dialect⟩ ctx = "" ∧
        e.sql ⟨some table.completed.dialect⟩ ctx = "null" :=
  ⟨_, rfl, Phrase.sample .null, .standard, by decide +kernel, by decide +kernel⟩

end ColumnSql
