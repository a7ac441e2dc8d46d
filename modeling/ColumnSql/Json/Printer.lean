import ColumnSql.Decimal.Layout
import ColumnSql.Json.Basic

/-! JSON values as text, on one line or on a line for each item. -/

namespace ColumnSql.Json

/-- Exponents in JSON have a plus sign. -/
def floatLayout : Decimal.Layout := ⟨true⟩

def hexByte (n : Nat) : List Char :=
  let d := Nat.toDigits 16 n
  List.replicate (2 - d.length) '0' ++ d

def escapeChar (c : Char) : List Char :=
  if c = '"' then ['\\', '"']
  else if c = '\\' then ['\\', '\\']
  else if c = '\n' then ['\\', 'n']
  else if c = '\r' then ['\\', 'r']
  else if c = '\t' then ['\\', 't']
  else if c.toNat = 8 then ['\\', 'b']
  else if c.toNat = 12 then ['\\', 'f']
  else if c.toNat < 32 then ['\\', 'u', '0', '0'] ++ hexByte c.toNat
  else [c]

def quote (s : String) : String := String.ofList ('"' :: s.toList.flatMap escapeChar ++ ['"'])

def intText (n : Int) : String := String.ofList (Decimal.intText n)

mutual

def compact : Json → String
  | null => "null"
  | bool b => if b then "true" else "false"
  | int n => intText n
  | float x => floatLayout.text x
  | string s => quote s
  | array items => "[" ++ ",".intercalate (compactItems items) ++ "]"
  | object members => "\x7b" ++ ",".intercalate (compactMembers members) ++ "\x7d"

def compactItems : List Json → List String
  | [] => []
  | v :: r => v.compact :: compactItems r

def compactMembers : List (String × Json) → List String
  | [] => []
  | (name, v) :: r => (quote name ++ ":" ++ v.compact) :: compactMembers r

end

def newLine (n : Nat) : String := String.ofList ('\n' :: List.replicate n ' ')

def block (left right : String) (indent : Nat) : List String → String
  | [] => left ++ right
  | items =>
    left ++ newLine (indent + 2) ++ ("," ++ newLine (indent + 2)).intercalate items ++
      newLine indent ++ right

mutual

def pretty : Json → Nat → String
  | array items, indent => block "[" "]" indent (prettyItems items (indent + 2))
  | object members, indent => block "\x7b" "\x7d" indent (prettyMembers members (indent + 2))
  | null, _ => "null"
  | bool b, _ => if b then "true" else "false"
  | int n, _ => intText n
  | float x, _ => floatLayout.text x
  | string s, _ => quote s

def prettyItems : List Json → Nat → List String
  | [], _ => []
  | v :: r, indent => v.pretty indent :: prettyItems r indent

def prettyMembers : List (String × Json) → Nat → List String
  | [], _ => []
  | (name, v) :: r, indent => (quote name ++ ": " ++ v.pretty indent) :: prettyMembers r indent

end

end ColumnSql.Json
