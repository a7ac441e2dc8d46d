import ColumnSql.Dialect.Conversion
import ColumnSql.Dialect.Identifier
import ColumnSql.Dialect.Templates
import ColumnSql.Literal

/-! Dialects: the templates of the phrases, conversions, quotes and literals. -/

namespace ColumnSql

/-- what rendering needs of a dialect; all but the name and the templates may be left as it is -/
structure Dialect where
  name : String
  phrase : Phrase → String
  /-- the template from a type (the second) to another (the first) with an optional format -/
  conversion : DataType → DataType → Option String → String := fun dest _ _ =>
    Conversion.generic dest
  quoteIdentifier : String → String :=
    Identifier.quoteWith (phrase .quotesOpen) (phrase .quotesClose)
  needsQuotes : String → Bool := Identifier.needsQuotes
  quoteText : String → String := textLiteral
  literal : Value → DataType → String := Literal.ofValue phrase quoteText

namespace Dialect

def ofPhrases (name : String) (phrase : Phrase → String) : Dialect where
  name := name
  phrase := phrase

/-- the first phrase whose template it does not accept is an error -/
def check (d : Dialect) : Except ExprError Unit := Phrase.all.forM fun p => p.check (d.phrase p)

def quoteName (d : Dialect) (name : String) : String :=
  if d.needsQuotes name then d.quoteIdentifier name else name

end Dialect

/-- a literal of a text, marked as national where it is not ASCII -/
def nationalLiteral (s : String) : String :=
  if s.toList.all fun c => c.toNat < 128 then textLiteral s else "N" ++ textLiteral s

def Builtin.quoteIdentifier : Builtin → String → String
  | sqlServer => Text.quoted '[' ']'
  | mySql | sqlite => Text.quoted '\x60' '\x60'
  | oracle | postgres | generic | hsql => Text.quoted '"' '"'

def Builtin.quoteText : Builtin → String → String
  | sqlServer => nationalLiteral
  | _ => textLiteral

def Builtin.dialect (b : Builtin) : Dialect where
  name := b.name
  phrase := b.template
  conversion := b.conversion
  quoteIdentifier := b.quoteIdentifier
  quoteText := b.quoteText

end ColumnSql
