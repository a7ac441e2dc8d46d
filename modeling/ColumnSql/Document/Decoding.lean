import ColumnSql.Document.Basic
import ColumnSql.Json.Reader

/-! Documents from JSON.

A node is an object whose `kind` tells its fields, or an array of the kind and the fields in order.
An operand is a node if it can be one, else a list if it is an array, else a plain value. Each JSON
value is read once, from the inside out, as everything that it could be. -/

namespace ColumnSql

/-- a JSON value and what it can be in a document -/
structure Reading where
  json : Json
  /-- the name of a choice: a text, or an object of one member without content -/
  word : Option String
  node : Option Document
  term : Term
  case : Option Case
  items : Option (List Reading)

namespace Reading

def text? (r : Reading) : Option String :=
  match r.json with
  | .string s => some s
  | _ => none

def flag? (r : Reading) : Option Bool :=
  match r.json with
  | .bool b => some b
  | _ => none

def isNull (r : Reading) : Bool :=
  match r.json with
  | .null => true
  | _ => false

def dataType? (r : Reading) : Option DataType := r.word.bind DataType.ofKey?

def operator? (r : Reading) : Option Operator := r.word.bind Operator.ofSymbol?

def phrase? (r : Reading) : Option Phrase := r.word.bind Phrase.ofExactKey?

def nodes? (r : Reading) : Option (List Document) := do (← r.items).mapM (·.node)

def terms? (r : Reading) : Option (List Term) := r.items.map fun items => items.map (·.term)

def cases? (r : Reading) : Option (List Case) := do (← r.items).mapM (·.case)

def term? (r : Reading) : Option Term := some r.term

/-- the kind that a tag names, or whose number it is -/
def kind? (r : Reading) : Option Document.Kind :=
  match r.json with
  | .string s => Document.Kind.ofKey? s
  | .int n => if n < 0 then none else Document.Kind.all[n.toNat]?
  | _ => none

end Reading

/-- fields by name; a name that stands twice has no value -/
abbrev Fields := List (String × Reading)

namespace Fields

def find? (fs : Fields) (name : String) : Option (Option Reading) :=
  match fs.filter fun f => f.1 == name with
  | [] => some none
  | [f] => some (some f.2)
  | _ => none

def need? {α : Type} (fs : Fields) (name : String) (read : Reading → Option α) : Option α := do
  read (← (← fs.find? name))

def get? {α : Type} (fs : Fields) (name : String) (default : α) (read : Reading → Option α) :
    Option α := do
  match ← fs.find? name with
  | none => return default
  | some r => read r

/-- a field that may be missing or null -/
def may? {α : Type} (fs : Fields) (name : String) (read : Reading → Option α) :
    Option (Option α) :=
  fs.get? name none fun r => if r.isNull then some none else (read r).map some

end Fields

open Reading in
def Document.Kind.document? (k : Document.Kind) (fs : Fields) : Option Document := do
  let expr := fun (_ : Unit) => fs.need? "expr" Reading.node
  match k with
  | .column =>
    return .column (← fs.need? "name" text?) (← fs.may? "table" text?)
      (← fs.get? "data_type" .unknown dataType?)
  | .value =>
    return .value (← fs.need? "value" fun r => some r.json)
      (← fs.get? "data_type" .unknown dataType?)
  | .now => return .now (← fs.get? "data_type" .dateTime dataType?)
  | .arith =>
    return .arith (← expr ()) (← fs.need? "op" operator?) (← fs.need? "value" term?)
  | .concat => return .concat (← expr ()) (← fs.need? "value" term?)
  | .concatAll =>
    return .concatAll (← expr ()) (← fs.need? "others" nodes?) (← fs.may? "separator" text?)
  | .countAll => return .countAll
  | .function =>
    return .function (← expr ()) (← fs.need? "template" text?) (← fs.may? "data_type" dataType?)
      (← fs.get? "aggregate" false flag?)
  | .phrase =>
    return .phrase (← expr ()) (← fs.need? "phrase" phrase?) (← fs.get? "params" [] terms?)
      (← fs.may? "param_type" dataType?) (← fs.may? "data_type" dataType?)
  | .call =>
    return .call (← fs.need? "prefix" text?) (← expr ()) (← fs.get? "middle" "" text?)
      (← fs.may? "other" Reading.node) (← fs.get? "postfix" "" text?)
  | .decode =>
    return .decode (← expr ()) (← fs.get? "cases" [] cases?) (← fs.may? "else" term?)
      (← fs.need? "data_type" dataType?)
  | .convert =>
    return .convert (← expr ()) (← fs.need? "data_type" dataType?) (← fs.may? "format" text?)
  | .parenthesis => return .parenthesis (← expr ())
  | .named => return .named (← expr ()) (← fs.need? "alias" text?)

namespace Reading

def ofFields? (fs : Fields) : Option Document := do
  (← fs.need? "kind" Reading.kind?).document? fs

/-- the node of an array, of which no item may be left over -/
def ofItems? : List Reading → Option Document
  | [] => none
  | tag :: rest => do
    let k ← tag.kind?
    if k.fields.length < rest.length then none else k.document? (k.fields.zip rest)

def caseOfFields? (fs : Fields) : Option Case := do
  return .mk (← fs.need? "when" term?) (← fs.need? "then" term?)

def caseOfItems? : List Reading → Option Case
  | [key, result] => some (.mk key.term result.term)
  | _ => none

/-- the name of the only member, if its value is null or an empty object -/
def wordOfFields? : Fields → Option String
  | [(name, r)] =>
    match r.json with
    | .null | .object [] => some name
    | _ => none
  | _ => none

def ofScalar (v : Json) : Reading where
  json := v
  word :=
    match v with
    | .string s => some s
    | _ => none
  node := none
  term := .plain v
  case := none
  items := none

def ofArray (items : List Reading) : Reading where
  json := .array (items.map (·.json))
  word := none
  node := ofItems? items
  term :=
    match ofItems? items with
    | some e => .node e
    | none => .list (items.map (·.term))
  case := caseOfItems? items
  items := some items

def ofObject (fs : Fields) : Reading :=
  let json := Json.object (Json.ordered (fs.map fun f => (f.1, f.2.json)))
  { json := json
    word := wordOfFields? fs
    node := ofFields? fs
    term :=
      match ofFields? fs with
      | some e => .node e
      | none => .plain json
    case := caseOfFields? fs
    items := none }

mutual

def ofJson : Json → Reading
  | .array items => ofArray (ofJsonItems items)
  | .object members => ofObject (ofJsonMembers members)
  | v => ofScalar v

def ofJsonItems : List Json → List Reading
  | [] => []
  | v :: r => ofJson v :: ofJsonItems r

def ofJsonMembers : List (String × Json) → Fields
  | [] => []
  | (name, v) :: r => (name, ofJson v) :: ofJsonMembers r

end

end Reading

/-- whether the kind of the node is given by its name, as that of a whole document must be -/
def Json.hasNamedKind : Json → Bool
  | .array (.string _ :: _) => true
  | .object members =>
    match members.lookup "kind" with
    | some (.string _) => true
    | _ => false
  | _ => false

def Document.ofJson? (v : Json) : Option Document :=
  if v.hasNamedKind then (Reading.ofJson v).node else none

def Document.read (s : String) : Except DocumentError Document :=
  match (Json.read? s).bind Document.ofJson? with
  | some e => .ok e
  | none => .error .unreadable

end ColumnSql
