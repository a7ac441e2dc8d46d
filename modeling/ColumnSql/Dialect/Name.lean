import ColumnSql.Error

/-! The built-in dialects and their names. -/

namespace ColumnSql

inductive Builtin
  | generic
  | oracle
  | sqlServer
  | mySql
  | postgres
  | sqlite
  | hsql
deriving DecidableEq, Inhabited

namespace Builtin

def all : List Builtin := [generic, oracle, sqlServer, mySql, postgres, sqlite, hsql]

def name : Builtin → String
  | generic => "generic"
  | oracle => "oracle"
  | sqlServer => "sqlserver"
  | mySql => "mysql"
  | postgres => "postgres"
  | sqlite => "sqlite"
  | hsql => "hsql"

def aliases : Builtin → List String
  | generic => ["ansi"]
  | sqlServer => ["mssql", "tsql"]
  | postgres => ["postgresql", "pg"]
  | hsql => ["hsqldb"]
  | _ => []

def ofName? (s : String) : Option Builtin :=
  let word := Text.lowered (Text.trimmed s)
  all.find? fun b => b.name = word || b.aliases.contains word

def ofName (s : String) : Except ExprError Builtin :=
  match ofName? s with
  | some b => .ok b
  | none => .error (.unknownDialect s)

end Builtin

end ColumnSql
