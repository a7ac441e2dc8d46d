import ColumnSql.Dialect.Basic

/-! A built-in dialect with some of its templates replaced. -/

namespace ColumnSql

/-- a base and templates in place of its own -/
structure PhraseTable where
  base : Builtin
  override : Phrase → Option String

namespace PhraseTable

def ofBase (base : Builtin) : PhraseTable := ⟨base, fun _ => none⟩

def set (t : PhraseTable) (p : Phrase) (template : String) : PhraseTable :=
  { t with override := fun q => if q = p then some template else t.override q }

def add (t : PhraseTable) (x : Phrase × String) : Except ExprError PhraseTable := do
  x.1.check x.2
  return t.set x.1 x.2

/-- Of the templates for one phrase the last holds; the first that is not accepted is an error. -/
def ofOverrides (base : Builtin) (overrides : List (Phrase × String)) :
    Except ExprError PhraseTable :=
  overrides.foldlM add (ofBase base)

def overrides (t : PhraseTable) : List (Phrase × String) :=
  Phrase.all.filterMap fun p => (t.override p).map fun s => (p, s)

def phrase (t : PhraseTable) (p : Phrase) : String := (t.override p).getD (t.base.template p)

/-- Identifiers have the quotes of the table, texts those of its base. -/
def dialect (t : PhraseTable) : Dialect where
  name := t.base.name
  phrase := t.phrase
  conversion := t.base.conversion
  quoteIdentifier := Identifier.quoteWith (t.phrase .quotesOpen) (t.phrase .quotesClose)
  quoteText := t.base.quoteText

theorem phrase_ofBase (b : Builtin) : (ofBase b).phrase = b.template := rfl

theorem phrase_set_self (t : PhraseTable) (p : Phrase) (s : String) : (t.set p s).phrase p = s := by
  simp [phrase, set]

theorem phrase_set_of_ne (t : PhraseTable) {p q : Phrase} (h : q ≠ p) (s : String) :
    (t.set p s).phrase q = t.phrase q := by
  simp [phrase, set, h]

end PhraseTable

end ColumnSql
