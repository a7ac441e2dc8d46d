import ColumnSql.Dialect.Name

/-! The templates in which the built-in dialects differ from the generic ones. -/

namespace ColumnSql.Builtin

open Phrase

def oracleTemplate : Phrase → String
  | currentDate => "trunc(sysdate)"
  | dateTemplate => "TO_DATE('{0}', 'YYYY-MM-DD')"
  | currentTime => "sysdate"
  | timeTemplate => "TO_DATE('{0}', 'HH24:MI:SS')"
  | currentDateTime => "sysdate"
  | dateTimeTemplate => "TO_DATE('{0}', 'YYYY-MM-DD HH24:MI:SS')"
  | currentTimestamp => "systimestamp"
  | timestampTemplate => "TO_TIMESTAMP('{0}', 'YYYY-MM-DD HH24:MI:SS.FF')"
  | coalesce => "nvl(?, {0})"
  | concat => " || "
  | substring => "substr(?, {0})"
  | substringLength => "substr(?, {0}, {1})"
  | indexOf => "instr(?, {0})"
  | indexOfFrom => "instr(?, {0}, {1:INTEGER})"
  | ceiling => "ceil(?)"
  | format => "TO_CHAR(?, {0:VARCHAR})"
  | decode => "decode(?{0})"
  | decodeSeparator => ", "
  | decodePart => "{0}, {1}"
  | decodeElse => "{0}"
  | p => p.template

def sqlServerTemplate : Phrase → String
  | quotesOpen => "["
  | quotesClose => "]"
  | concatExpr => " + "
  | currentDate => "convert(date, getdate())"
  | datePattern => "%Y/%m/%d"
  | dateTemplate => "convert(date, '{0}', 111)"
  | currentTime => "convert(time, getdate())"
  | timeTemplate => "convert(time, '{0}', 108)"
  | currentDateTime => "getdate()"
  | dateTimeTemplate => "convert(datetime, '{0}', 120)"
  | currentTimestamp => "sysdatetime()"
  | timestampTemplate => "convert(datetime2, '{0}', 121)"
  | substring => "substring(?, {0}, 4000)"
  | indexOf => "charindex({0}, ?)"
  | length => "len(?)"
  | trunc => "round(?, {0}, 1)"
  | modulo => "((?) % {0})"
  | day => "day(?)"
  | month => "month(?)"
  | year => "year(?)"
  | p => p.template

def mySqlTemplate : Phrase → String
  | quotesOpen => "\x60"
  | quotesClose => "\x60"
  | concatExpr => "concat(?, {0})"
  | currentDate => "CURRENT_DATE()"
  | dateTemplate => "STR_TO_DATE('{0}', '%Y-%m-%d')"
  | currentTime => "CURRENT_TIME()"
  | timeTemplate => "'{0}'"
  | currentDateTime => "NOW()"
  | dateTimeTemplate => "STR_TO_DATE('{0}', '%Y-%m-%d %H:%i:%s')"
  | currentTimestamp => "NOW(6)"
  | timestampPattern => "%Y-%m-%d %H:%M:%S%.6f"
  | timestampTemplate => "STR_TO_DATE('{0}', '%Y-%m-%d %H:%i:%s.%f')"
  | indexOf => "instr(?, {0})"
  | indexOfFrom => "locate({0}, ?, {1:INTEGER})"
  | upper => "ucase(?)"
  | lower => "lcase(?)"
  | trunc => "truncate(?, {0})"
  | day => "day(?)"
  | month => "month(?)"
  | year => "year(?)"
  | p => p.template

def postgresTemplate : Phrase → String
  | concatExpr => "? || {0}"
  | booleanTrue => "TRUE"
  | booleanFalse => "FALSE"
  | currentDateTime => "NOW()"
  | currentTimestamp => "NOW()"
  | indexOf => "strpos(?, {0})"
  | indexOfFrom => ""
  | format => "to_char(?, {0:VARCHAR})"
  | p => p.template

def sqliteTemplate : Phrase → String
  | quotesOpen => "\x60"
  | quotesClose => "\x60"
  | currentDate => "date('now')"
  | dateTemplate => "date('{0}')"
  | currentTime => "time('now')"
  | timeTemplate => "time('{0}')"
  | currentDateTime => "datetime('now')"
  | dateTimeTemplate => "datetime('{0}')"
  | currentTimestamp => "strftime('%Y-%m-%d %H:%M:%f', 'now')"
  | timestampTemplate => "'{0}'"
  | concat => " || "
  | substring => "substr(?, {0})"
  | substringLength => "substr(?, {0}, {1})"
  | reverse => ""
  | indexOf => "instr(?, {0})"
  | indexOfFrom => ""
  | modulo => "(? % {0})"
  | format => "printf({0:VARCHAR}, ?)"
  | day => "cast(strftime('%d', ?) as integer)"
  | month => "cast(strftime('%m', ?) as integer)"
  | year => "cast(strftime('%Y', ?) as integer)"
  | p => p.template

def hsqlTemplate : Phrase → String
  | concatExpr => "concat(?, {0})"
  | booleanTrue => "true"
  | booleanFalse => "false"
  | dateTemplate => "'{0}'"
  | timeTemplate => "'{0}'"
  | dateTimeTemplate => "'{0}'"
  | timestampTemplate => "'{0}'"
  | substring => "substr(?, {0})"
  | substringLength => "substr(?, {0}, {1})"
  | indexOf => "locate({0}, ?)"
  | indexOfFrom => "locate({0}, ?, {1:INTEGER})"
  | upper => "ucase(?)"
  | lower => "lcase(?)"
  | trunc => "truncate(?, {0})"
  | p => p.template

/-- the template of a phrase; an empty one stands for the generic one -/
def template : Builtin → Phrase → String
  | generic => Phrase.template
  | oracle => oracleTemplate
  | sqlServer => sqlServerTemplate
  | mySql => mySqlTemplate
  | postgres => postgresTemplate
  | sqlite => sqliteTemplate
  | hsql => hsqlTemplate

end ColumnSql.Builtin
