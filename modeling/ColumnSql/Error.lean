import ColumnSql.DataType
import ColumnSql.Phrase
import ColumnSql.Text.Escaped

/-! Why an expression or a dialect cannot be made. -/

namespace ColumnSql

inductive Fault
  | notDecimal
  | notFinite
  | notNumber (t : DataType)
  | notTemporal (t : DataType)
  | timeOfDay (t : DataType)
  | dateOnly
  | listInFront
  | notFunction
deriving DecidableEq

def Fault.text : Fault → String
  | notDecimal => "not a decimal number"
  | notFinite => "not a finite number"
  | notNumber t => "not a valid " ++ t.name ++ " number"
  | notTemporal t => "not a valid " ++ t.name ++ " value"
  | timeOfDay t => "a time of day is not a " ++ t.name ++ " value"
  | dateOnly => "a date is not a TIME value"
  | listInFront => "cannot prepend a list"
  | notFunction => "not a function phrase"

inductive Argument
  | value
  | phrase
deriving DecidableEq

def Argument.name : Argument → String
  | value => "value"
  | phrase => "phrase"

inductive ExprError
  | missingPlaceholder (template : String)
  | invalidArgument (argument : Argument) (text : String) (fault : Fault)
  | unsupportedType (t : DataType)
  | invalidPhrase (p : Phrase) (template : String)
  | unknownDialect (name : String)
deriving DecidableEq

def ExprError.message : ExprError → String
  | missingPlaceholder template =>
    "Template has no '?' placeholder for the column expression: " ++ Text.escaped template
  | invalidArgument a text fault =>
    "Invalid argument " ++ a.name ++ " = " ++ text ++ ": " ++ fault.text
  | unsupportedType t => "Values of type " ++ t.name ++ " cannot be rendered as SQL literals"
  | invalidPhrase p template =>
    "Invalid template for phrase " ++ p.key ++ ": " ++ Text.escaped template
  | unknownDialect name => "Unknown dialect: " ++ name

def Phrase.check (p : Phrase) (template : String) : Except ExprError Unit :=
  if p.accepts template then .ok () else .error (.invalidPhrase p template)

end ColumnSql
