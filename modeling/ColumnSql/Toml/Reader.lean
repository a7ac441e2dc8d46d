import ColumnSql.Toml.Scalar
import ColumnSql.Toml.Text

/-! TOML texts. -/

namespace ColumnSql.Toml

abbrev ReadValue := List Char → Option (Value × List Char)

def items? (value? : ReadValue) : Nat → List Char → Option (List Value × List Char)
  | 0, _ => none
  | n + 1, s => do
    match ← skipLines? false s with
    | ']' :: rest => return ([], rest)
    | s =>
      let (v, s) ← value? s
      match ← skipLines? false s with
      | ',' :: s =>
        let (items, rest) ← items? value? n s
        return (v :: items, rest)
      | ']' :: rest => return ([v], rest)
      | _ => none

def keyValue? (value? : ReadValue) (s : List Char) : Option ((List String × Value) × List Char) := do
  let (keys, s) ← keys? s
  let (v, s) ← value? (skipSpaces (← Text.after? ['='] s))
  return ((keys, v), s)

def entries? (value? : ReadValue) : Nat → Entries → List Char → Option (Entries × List Char)
  | 0, _, _ => none
  | n + 1, t, s => do
    match ← skipLines? false s with
    | '\x7d' :: rest => return (t, rest)
    | s =>
      let ((keys, v), s) ← keyValue? value? s
      let t ← addDotted? v keys t
      match ← skipLines? false s with
      | ',' :: s => entries? value? n t s
      | '\x7d' :: rest => return (t, rest)
      | _ => none

/-- a value in which arrays and tables are at most `n` deep in each other -/
def value? : Nat → ReadValue
  | 0, s =>
    match string? s with
    | some (text, rest) => some (.string (String.ofList text), rest)
    | none => scalar? s
  | n + 1, s =>
    match s with
    | '[' :: s => (items? (value? n) (s.length + 1) s).map fun x => (.array x.1, x.2)
    | '\x7b' :: s =>
      (entries? (value? n) (s.length + 1) [] s).map fun x => (.table .braces x.1, x.2)
    | s => value? 0 s

def maxDepth : Nat := 80

structure State where
  entries : Entries
  header : List String

def State.line? (t : State) (s : List Char) : Option (State × List Char) :=
  match skipSpaces s with
  | '[' :: '[' :: s => do
    let (keys, s) ← keys? s
    let s ← lineEnd? (← Text.after? [']', ']'] s)
    return (⟨← atHeader? extended? keys t.entries, keys⟩, s)
  | '[' :: s => do
    let (keys, s) ← keys? s
    let s ← lineEnd? (← Text.after? [']'] s)
    return (⟨← atHeader? defined? keys t.entries, keys⟩, s)
  | s =>
    match lineEnd? s with
    | some rest => some (t, rest)
    | none => do
      let ((keys, v), s) ← keyValue? (value? maxDepth) s
      let s ← lineEnd? s
      return ({ t with entries := ← addAt? v keys t.header t.entries }, s)

def State.lines? : Nat → State → List Char → Option Entries
  | _, t, [] => some t.entries
  | 0, _, _ => none
  | n + 1, t, c :: s => do
    let (t, s) ← t.line? (c :: s)
    lines? n t s

/-- the entries of a text, which may start with a byte order mark -/
def read? (s : String) : Option Entries :=
  let s :=
    match s.toList with
    | '\ufeff' :: r => r
    | r => r
  State.lines? (s.length + 1) ⟨[], []⟩ s

end ColumnSql.Toml
