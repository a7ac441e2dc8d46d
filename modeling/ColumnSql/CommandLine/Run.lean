import ColumnSql.CommandLine.Help
import ColumnSql.Document.Building
import ColumnSql.Document.Encoding
import ColumnSql.Expr.Rendering
import ColumnSql.Expr.Report
import ColumnSql.Settings

/-! The commands: what they read, and what they print. There is no log, so its level, which settings
and arguments give, is read and not used. -/

namespace ColumnSql.CommandLine

/-- what the program sees of its surroundings -/
structure Host (m : Type → Type) where
  exists? : String → m Bool
  read : String → m (Except String String)
  input : m (Except String String)
  config : Option String
  configFolder : Option String

structure Result where
  code : UInt32
  output : String
  error : String

def Result.ok (output : String) : Result := ⟨0, output, ""⟩

def Result.failed (error : String) : Result := ⟨1, "", error ++ "\n"⟩

def Stop.result : Stop → Result
  | usage => ⟨2, "", CommandLine.usage none ++ "\n"⟩
  | help c => .ok (CommandLine.help c)
  | helpOfHelp => .ok CommandLine.helpOfHelp
  | version => .ok (CommandLine.version ++ "\n")

def phraseLine (table : PhraseTable) (p : Phrase) : String :=
  "  " ++ p.key ++ String.ofList (List.replicate (22 - p.key.length) ' ') ++ " " ++
    Text.escaped (table.phrase p) ++ "\n"

def listing (table : PhraseTable) : String :=
  "Dialect: " ++ table.base.name ++ "\n\n" ++ String.join (Phrase.all.map (phraseLine table))

variable {m : Type → Type} [Monad m]

def settingsOf (host : Host m) (path : String) : m (Except SettingsError Settings) := do
  if !(← host.exists? path) then return .error (.notFound path)
  match ← host.read path with
  | .error reason => return .error (.unreadable reason)
  | .ok text => return Settings.read text

/-- the settings of the environment's file, of the one in the working folder, or of the user's -/
def findSettings (host : Host m) : m (Except SettingsError Settings) := do
  if let some path := host.config then return ← settingsOf host path
  if ← host.exists? "colexpr.toml" then return ← settingsOf host "colexpr.toml"
  if let some folder := host.configFolder then
    let path := folder ++ "/colexpr/config.toml"
    if ← host.exists? path then return ← settingsOf host path
  return .ok .standard

/-- the dialect of the settings, which must accept all its templates -/
def dialectOf (t : Settings) : Except Result PhraseTable :=
  match t.table with
  | .error e => .error (.failed ("Dialect error: " ++ e.message))
  | .ok table =>
    match table.dialect.check with
    | .error e => .error (.failed ("Dialect error: " ++ e.message))
    | .ok () => .ok table

/-- the expression of a document file, where a dash is the input -/
def readExpr (host : Host m) (file : String) : m (Except Result Expr) := do
  match ← if file = "-" then host.input else host.read file with
  | .error reason =>
    return .error (.failed ("Error reading file '" ++ file ++ "': " ++ reason))
  | .ok text =>
    match Expr.read text [] with
    | .error e => return .error (.failed ("Document error: " ++ e.message))
    | .ok e => return .ok e

def render (host : Host m) (t : Settings) (file : String) : m Result := do
  match dialectOf t with
  | .error r => return r
  | .ok table =>
    match ← readExpr host file with
    | .error r => return r
    | .ok e => return .ok (e.sql ⟨some table.dialect⟩ t.context ++ "\n")

/-- the description of a document, which needs no dialect -/
def describe (host : Host m) (file : String) : m Result := do
  match ← readExpr host file with
  | .error r => return r
  | .ok e => return .ok (e.describe.toJson.pretty 0 ++ "\n")

def phrases (t : Settings) : Result :=
  match dialectOf t with
  | .error r => r
  | .ok table => .ok (listing table)

/-- the settings with another dialect below their templates -/
def withBase (t : Settings) : Option String → Settings
  | some base => { t with base := base }
  | none => t

def execute (host : Host m) (t : Settings) : Command → m Result
  | .render file dialect aliases =>
    let t := withBase t dialect
    render host { t with aliases := t.aliases || aliases } file
  | .describe file => describe host file
  | .phrases dialect => return phrases (withBase t dialect)

def run (host : Host m) (args : List String) : m Result := do
  match parse args with
  | .error stop => return stop.result
  | .ok i =>
    let settings ←
      match i.config with
      | some path => settingsOf host path
      | none => findSettings host
    match settings with
    | .error e => return .failed ("Configuration error: " ++ e.message)
    | .ok t => execute host t i.command

end ColumnSql.CommandLine
