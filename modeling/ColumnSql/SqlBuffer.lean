import ColumnSql.Dialect.Basic
import ColumnSql.Template

/-! SQL as it is written: what it is written for, and the text so far. -/

namespace ColumnSql

/-- what SQL is written for; without a dialect it has generic phrases and plain constants -/
structure Target where
  dialect : Option Dialect

namespace Target

/-- The template of a phrase. The generic one stands in for one that is empty, and for one of a
function that has no place for its operand. -/
def phrase (t : Target) (p : Phrase) : String :=
  match t.dialect with
  | none => p.template
  | some d =>
    if (d.phrase p).isEmpty || (p.takesOperand && !Phrase.hasMark (d.phrase p)) then p.template
    else d.phrase p

def literal (t : Target) (v : Value) (type : DataType) : String :=
  match t.dialect with
  | none => v.plain
  | some d => d.literal v type

def name (t : Target) (s : String) : String :=
  match t.dialect with
  | none => s
  | some d => d.quoteName s

def identifier (t : Target) (s : String) : String :=
  match t.dialect with
  | none => Builtin.generic.quoteIdentifier s
  | some d => d.quoteIdentifier s

def conversion (t : Target) (dest source : DataType) (format : Option String) : String :=
  match t.dialect with
  | none => Conversion.generic dest
  | some d => d.conversion dest source format

theorem phrase_ne_empty (t : Target) (p : Phrase) : t.phrase p ≠ "" := by
  unfold phrase
  split
  · exact p.template_ne_empty
  · split
    · exact p.template_ne_empty
    next h =>
      intro he
      simp [he] at h

/-- The template is that of the phrase or that of the dialect, which is not empty then. -/
theorem phrase_eq_or (d : Dialect) (p : Phrase) :
    phrase ⟨some d⟩ p = p.template ∨ d.phrase p ≠ "" ∧ phrase ⟨some d⟩ p = d.phrase p := by
  unfold phrase
  dsimp only
  split
  · exact .inl rfl
  next h => exact .inr ⟨fun he => h (by simp [he]), rfl⟩

end Target

structure SqlBuffer where
  text : String
  target : Target

namespace SqlBuffer

def empty (target : Target) : SqlBuffer := ⟨"", target⟩

def fork (b : SqlBuffer) : SqlBuffer := empty b.target

def append (b : SqlBuffer) (s : String) : SqlBuffer := { b with text := b.text ++ s }

def isEmpty (b : SqlBuffer) : Bool := b.text.isEmpty

/-- the size of the text in bytes -/
def size (b : SqlBuffer) : Nat := b.text.utf8ByteSize

/-- a template with `arg` in its placeholders and what `operand` writes in the place of `?` -/
def fill (b : SqlBuffer) (template : String) (arg : Template.Placeholder → String)
    (operand : SqlBuffer → SqlBuffer) : SqlBuffer :=
  let parts := Template.parts template
  (operand (b.append (Template.substitute arg parts.1))).append (Template.substitute arg parts.2)

def inspect (b : SqlBuffer) : String :=
  let name :=
    match b.target.dialect with
    | none => "None"
    | some d => "Some(" ++ Text.escaped d.name ++ ")"
  "SqlBuilder \x7b sql: " ++ Text.escaped b.text ++ ", dialect: " ++ name ++ " \x7d"

theorem target_append (b : SqlBuffer) (s : String) : (b.append s).target = b.target := rfl

end SqlBuffer

end ColumnSql
