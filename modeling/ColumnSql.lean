import ColumnSql.Main
import ColumnSql.Proofs.Calendar.RoundTrip
import ColumnSql.Proofs.Dialect.Conversion
import ColumnSql.Proofs.Dialect.Cutting
import ColumnSql.Proofs.Dialect.Fallback
import ColumnSql.Proofs.Dialect.NoDialect
import ColumnSql.Proofs.Dialect.PhraseTable
import ColumnSql.Proofs.Dialect.Settings
import ColumnSql.Proofs.Document.ArrayOperand
import ColumnSql.Proofs.Document.RoundTrip
import ColumnSql.Proofs.Expr.Aggregate
import ColumnSql.Proofs.Expr.Alias
import ColumnSql.Proofs.Expr.ConcatTemplate
import ColumnSql.Proofs.Expr.DecodeArguments
import ColumnSql.Proofs.Expr.Description
import ColumnSql.Proofs.Expr.Marks
import ColumnSql.Proofs.Expr.Modulo
import ColumnSql.Proofs.Expr.Operands
import ColumnSql.Proofs.Expr.Parameters
import ColumnSql.Proofs.Expr.References
import ColumnSql.Proofs.Expr.Subtraction
import ColumnSql.Proofs.Expr.UpdateColumn
import ColumnSql.Proofs.Lexical.Expr
import ColumnSql.Proofs.Lexical.Identifier
import ColumnSql.Proofs.Lexical.QuotedIdentifier
import ColumnSql.Proofs.Literal.Backslash
import ColumnSql.Proofs.Literal.Check
import ColumnSql.Proofs.Literal.Injection
import ColumnSql.Proofs.Literal.Moment
import ColumnSql.Proofs.Literal.Truth
