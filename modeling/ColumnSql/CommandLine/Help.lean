import ColumnSql.CommandLine.Arguments

/-! The help of the program and of its commands. -/

namespace ColumnSql.CommandLine

def version : String := "colexpr 0.1.0"

def about : Level → String
  | none => "colexpr - typed column expressions compiled to multi-dialect SQL"
  | some .render => "Render an expression document as SQL"
  | some .describe => "Print the metadata of an expression document as JSON"
  | some .phrases => "List the phrase templates of a dialect"

def usage : Level → String
  | none => "Usage: colexpr [OPTIONS] <COMMAND>"
  | some .render => "Usage: colexpr render [OPTIONS] <FILE>"
  | some .describe => "Usage: colexpr describe [OPTIONS] <FILE>"
  | some .phrases => "Usage: colexpr phrases [OPTIONS]"

def flagHelp (c : Level) : List (String × String) :=
  let config := ("-c, --config <CONFIG>",
    "Path to a colexpr.toml (defaults to the usual search locations)")
  let verbose := ("-v, --verbose", "Log at debug level regardless of the configured level")
  let help := ("-h, --help", "Print help")
  match c with
  | none => [config, verbose, help, ("-V, --version", "Print version")]
  | some .render =>
    [config,
      ("-d, --dialect <DIALECT>", "Dialect to render for (overrides the configured base)"),
      ("-a, --alias", "Emit \x60AS alias\x60 for aliased expressions"), verbose, help]
  | some .describe => [config, verbose, help]
  | some .phrases =>
    [config, ("-d, --dialect <DIALECT>", "Dialect to list (overrides the configured base)"),
      verbose, help]

def columns (rows : List (String × String)) : String :=
  let width := (rows.map fun x => x.1.length).foldl Nat.max 0
  String.join (rows.map fun x =>
    "  " ++ x.1 ++ String.ofList (List.replicate (width - x.1.length) ' ') ++ "  " ++ x.2 ++ "\n")

def commandHelp : String :=
  "\nCommands:\n" ++ columns
    [("render", about (some .render)), ("describe", about (some .describe)),
      ("phrases", about (some .phrases)),
      ("help", "Print this message or the help of the given subcommand(s)")]

def argumentHelp : String :=
  "\nArguments:\n" ++ columns [("<FILE>", "Path to the JSON document, or \x60-\x60 for stdin")]

def partsHelp : Level → String
  | none => commandHelp
  | some .render | some .describe => argumentHelp
  | some .phrases => ""

def help (c : Level) : String :=
  about c ++ "\n\n" ++ usage c ++ "\n" ++ partsHelp c ++ "\nOptions:\n" ++ columns (flagHelp c)

def helpOfHelp : String :=
  "Print this message or the help of the given subcommand(s)\n\n" ++
    "Usage: colexpr help [COMMAND]...\n\nArguments:\n" ++
    columns [("[COMMAND]...", "Print help for the subcommand(s)")]

end ColumnSql.CommandLine
