/-! TOML values, and the rules by which headers and keys define tables. -/

namespace ColumnSql.Toml

/-- how a table came about, which decides what may be added to it -/
inductive Origin
  | header
  | inner
  | dotted
  | braces
deriving DecidableEq

/-- a TOML value; floats, of which nothing is asked, and dates are kept as text -/
inductive Value
  | string (s : String)
  | integer (n : Int)
  | float (text : String)
  | bool (b : Bool)
  | dateTime (text : String)
  | array (items : List Value)
  /-- tables with a header of double brackets each, the last in front -/
  | tables (last : List (String × Value)) (before : List Value)
  | table (origin : Origin) (entries : List (String × Value))

abbrev Entries := List (String × Value)

def Entries.find? (t : Entries) (key : String) : Option Value := t.lookup key

/-- the key under which a date stands where a table is asked for -/
def dateTimeKey : String := "$__toml_private_datetime"

def Value.entries? : Value → Option Entries
  | .table _ entries => some entries
  | .dateTime text => some [(dateTimeKey, .string text)]
  | _ => none

def Entries.put (key : String) (v : Value) : Entries → Entries
  | [] => [(key, v)]
  | x :: r => if x.1 = key then (key, v) :: r else x :: Entries.put key v r

/-- The value that `header` may turn into a table of its own. One that is there may be so only if
tables inside it have made it. -/
def defined? : Option Value → Option Value
  | none => some (.table .header [])
  | some (.table .inner entries) => some (.table .header entries)
  | some _ => none

def extended? : Option Value → Option Value
  | none => some (.tables [] [])
  | some (.tables last before) => some (.tables [] (.table .header last :: before))
  | some _ => none

/-- Changes the value at a path of headers by `f`. Missing tables on the way are made, and tables of
double brackets stand for their last one. -/
def atHeader? (f : Option Value → Option Value) : List String → Entries → Option Entries
  | [], _ => none
  | [key], t => (f (t.find? key)).map fun v => t.put key v
  | key :: path, t =>
    match t.find? key with
    | none => (atHeader? f path []).map fun u => t.put key (.table .inner u)
    | some (.tables last before) =>
      (atHeader? f path last).map fun u => t.put key (.tables u before)
    | some (.table .braces _) => none
    | some (.table origin entries) =>
      (atHeader? f path entries).map fun u => t.put key (.table origin u)
    | some _ => none

/-- Adds a value below dotted keys. The tables on the way must not have a header or braces, and the
last of them must be one of dotted keys. -/
def addDotted? (v : Value) : List String → Entries → Option Entries
  | [], _ => none
  | [key], t => if (t.find? key).isSome then none else some (t.put key v)
  | key :: path, t =>
    match t.find? key with
    | none => (addDotted? v path []).map fun u => t.put key (.table .dotted u)
    | some (.tables last before) =>
      if path.length ≤ 1 then none
      else (addDotted? v path last).map fun u => t.put key (.tables u before)
    | some (.table .dotted entries) =>
      (addDotted? v path entries).map fun u => t.put key (.table .dotted u)
    | some (.table .inner entries) =>
      if path.length ≤ 1 then none
      else (addDotted? v path entries).map fun u => t.put key (.table .inner u)
    | some _ => none

def addAt? (v : Value) (keys : List String) : List String → Entries → Option Entries
  | [], t => addDotted? v keys t
  | key :: path, t =>
    match t.find? key with
    | some (.tables last before) =>
      (addAt? v keys path last).map fun u => t.put key (.tables u before)
    | some (.table origin entries) =>
      (addAt? v keys path entries).map fun u => t.put key (.table origin u)
    | _ => none

end ColumnSql.Toml
