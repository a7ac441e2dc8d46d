/-! The arguments of the command line. -/

namespace ColumnSql.CommandLine

inductive Name
  | render
  | describe
  | phrases
deriving DecidableEq

/-- the program itself, or one of its commands -/
abbrev Level := Option Name

def Name.ofWord? : String → Option Name
  | "render" => some .render
  | "describe" => some .describe
  | "phrases" => some .phrases
  | _ => none

inductive Flag
  | config
  | verbose
  | dialect
  | aliases
  | help
  | version
deriving DecidableEq

namespace Flag

def takesValue : Flag → Bool
  | config | dialect => true
  | _ => false

def allowedAt : Flag → Level → Bool
  | config, _ | verbose, _ | help, _ => true
  | dialect, c => c = some .render ∨ c = some .phrases
  | aliases, c => c = some .render
  | version, c => c.isNone

def ofChar? : Char → Option Flag
  | 'c' => some config
  | 'v' => some verbose
  | 'd' => some dialect
  | 'a' => some aliases
  | 'h' => some help
  | 'V' => some version
  | _ => none

def ofWord? : String → Option Flag
  | "config" => some config
  | "verbose" => some verbose
  | "dialect" => some dialect
  | "alias" => some aliases
  | "help" => some help
  | "version" => some version
  | _ => none

end Flag

inductive Stop
  | usage
  | help (c : Level)
  | helpOfHelp
  | version
deriving DecidableEq

structure Options where
  config : Option String
  verbose : Bool
  dialect : Option String
  aliases : Bool
  file : Option String
deriving DecidableEq

namespace Options

def none : Options := ⟨.none, false, .none, false, .none⟩

def give (o : Options) (f : Flag) (v : String) : Except Stop Options :=
  match f with
  | .config => if o.config.isSome || v.isEmpty then .error .usage else .ok { o with config := v }
  | .dialect => if o.dialect.isSome then .error .usage else .ok { o with dialect := v }
  | _ => .error .usage

/-- a flag without a value; help and version are shown at once -/
def turnOn (o : Options) (c : Level) (f : Flag) : Except Stop Options :=
  match f with
  | .verbose => if o.verbose then .error .usage else .ok { o with verbose := true }
  | .aliases => if o.aliases then .error .usage else .ok { o with aliases := true }
  | .help => .error (.help c)
  | .version => .error .version
  | _ => .error .usage

def giveFile (o : Options) (c : Level) (v : String) : Except Stop Options :=
  if c = some .render ∨ c = some .describe then
    if o.file.isSome || v.isEmpty then .error .usage else .ok { o with file := v }
  else .error .usage

end Options

abbrev Pending := Options × Option Flag

/-- the letters after a dash; the rest after a flag with a value is that value -/
def letters (c : Level) : Options → List Char → Except Stop Pending
  | o, [] => .ok (o, none)
  | o, x :: r =>
    match (Flag.ofChar? x).filter (·.allowedAt c) with
    | none => .error .usage
    | some f =>
      if f.takesValue then
        match r with
        | [] => .ok (o, some f)
        | '=' :: v => do return (← o.give f (String.ofList v), none)
        | v => do return (← o.give f (String.ofList v), none)
      else
        match o.turnOn c f with
        | .ok o => letters c o r
        | .error e => .error e

def word (c : Level) (o : Options) (s : List Char) : Except Stop Pending := do
  let name := s.takeWhile (· ≠ '=')
  match (Flag.ofWord? (String.ofList name)).filter (·.allowedAt c), s.drop name.length with
  | none, _ => throw .usage
  | some f, [] => if f.takesValue then return (o, some f) else return (← o.turnOn c f, none)
  | some f, _ :: v => return (← o.give f (String.ofList v), none)

def flags? (c : Level) (o : Options) (arg : String) : Option (Except Stop Pending) :=
  match arg.toList with
  | ['-'] => none
  | '-' :: '-' :: s => some (word c o s)
  | '-' :: s => some (letters c o s)
  | _ => none

/-- whether an argument looks like a flag, so that it is no value of one -/
def isDashed (arg : String) : Bool :=
  match arg.toList with
  | ['-'] => false
  | '-' :: _ => true
  | _ => false

def plain (c : Level) (o : Options) (args : List String) : Except Stop Options :=
  args.foldlM (fun o arg => o.giveFile c arg) o

/-- The arguments of a level. At that of the program they end before the first that is no flag. -/
def level (c : Level) : Pending → List String → Except Stop (Options × List String)
  | (o, none), [] => .ok (o, [])
  | (_, some _), [] => .error .usage
  | (o, some f), v :: r =>
    if isDashed v then .error .usage
    else
      match o.give f v with
      | .ok o => level c (o, none) r
      | .error e => .error e
  | (o, none), arg :: r =>
    if arg = "--" then (plain c o r).map (·, [])
    else
      match flags? c o arg with
      | some (.ok o) => level c o r
      | some (.error e) => .error e
      | none =>
        if c.isNone then .ok (o, arg :: r)
        else
          match o.giveFile c arg with
          | .ok o => level c (o, none) r
          | .error e => .error e

inductive Command
  | render (file : String) (dialect : Option String) (aliases : Bool)
  | describe (file : String)
  | phrases (dialect : Option String)
deriving DecidableEq

structure Invocation where
  config : Option String
  verbose : Bool
  command : Command
deriving DecidableEq

def command? (c : Name) (o : Options) : Option Command :=
  match c with
  | .render => o.file.map fun file => .render file o.dialect o.aliases
  | .describe => o.file.map .describe
  | .phrases => some (.phrases o.dialect)

def helpOn : List String → Stop
  | [] => .help none
  | ["help"] => .helpOfHelp
  | [c] =>
    match Name.ofWord? c with
    | some n => .help (some n)
    | none => .usage
  | _ => .usage

/-- what the arguments ask for; options of the command go before those of the program -/
def parse (args : List String) : Except Stop Invocation := do
  let (o, rest) ← level none (.none, none) args
  match rest with
  | [] => throw .usage
  | name :: rest =>
    if name = "help" then throw (helpOn rest)
    match Name.ofWord? name with
    | none => throw .usage
    | some c =>
      let (p, _) ← level (some c) (.none, none) rest
      match command? c p with
      | none => throw .usage
      | some command => return ⟨p.config.or o.config, o.verbose || p.verbose, command⟩

end ColumnSql.CommandLine
