import ColumnSql.Json.Number

/-! JSON texts: their tokens, and the values that these make up. -/

namespace ColumnSql.Json

/-- brackets, commas and colons, and values that have no parts -/
inductive Token
  | arrayStart
  | arrayEnd
  | objectStart
  | objectEnd
  | comma
  | colon
  | string (s : String)
  | scalar (v : Json)

/-- where a reader of characters is; texts are kept back to front -/
inductive Mark
  | between
  | word (chars : List Char)
  | text (chars : List Char)
  | backslash (chars : List Char)
  /-- in the four digits of an escape, of which `n` is the value and `left` are to come, after the
  first half of a pair or none -/
  | unicode (chars : List Char) (high : Option Nat) (n left : Nat)
  | pair (chars : List Char) (high : Nat)
  | pairBackslash (chars : List Char) (high : Nat)

structure Lexed where
  tokens : List Token
  mark : Mark

def isBlank (c : Char) : Bool := c = ' ' || c = '\n' || c = '\r' || c = '\t'

def isWordChar (c : Char) : Bool := c.isAlphanum || c = '+' || c = '-' || c = '.'

def wordToken? (word : List Char) : Option Token :=
  if word = ['n', 'u', 'l', 'l'] then some (.scalar .null)
  else if word = ['t', 'r', 'u', 'e'] then some (.scalar (.bool true))
  else if word = ['f', 'a', 'l', 's', 'e'] then some (.scalar (.bool false))
  else (Number.read? word).map .scalar

def start? (tokens : List Token) (c : Char) : Option Lexed :=
  match c with
  | '[' => some ⟨.arrayStart :: tokens, .between⟩
  | ']' => some ⟨.arrayEnd :: tokens, .between⟩
  | '\x7b' => some ⟨.objectStart :: tokens, .between⟩
  | '\x7d' => some ⟨.objectEnd :: tokens, .between⟩
  | ',' => some ⟨.comma :: tokens, .between⟩
  | ':' => some ⟨.colon :: tokens, .between⟩
  | '"' => some ⟨tokens, .text []⟩
  | c =>
    if isBlank c then some ⟨tokens, .between⟩
    else if isWordChar c then some ⟨tokens, .word [c]⟩
    else none

def escaped? : Char → Option Char
  | '"' => some '"'
  | '\\' => some '\\'
  | '/' => some '/'
  | 'b' => some '\x08'
  | 'f' => some '\x0c'
  | 'n' => some '\n'
  | 'r' => some '\r'
  | 't' => some '\t'
  | _ => none

def hexDigit? (c : Char) : Option Nat :=
  if c.isDigit then some (c.toNat - 48)
  else if 'a' ≤ c ∧ c ≤ 'f' then some (c.toNat - 87)
  else if 'A' ≤ c ∧ c ≤ 'F' then some (c.toNat - 55)
  else none

/-- after the four digits of an escape; the halves of a pair stand together or not at all -/
def unicodeEnd? (chars : List Char) (high : Option Nat) (n : Nat) : Option Mark :=
  match high with
  | some h =>
    if 0xdc00 ≤ n ∧ n ≤ 0xdfff then
      some (.text (Char.ofNat (0x10000 + (h - 0xd800) * 0x400 + (n - 0xdc00)) :: chars))
    else none
  | none =>
    if 0xd800 ≤ n ∧ n ≤ 0xdbff then some (.pair chars n)
    else if 0xdc00 ≤ n ∧ n ≤ 0xdfff then none
    else some (.text (Char.ofNat n :: chars))

def Lexed.step (s : Lexed) (c : Char) : Option Lexed :=
  match s.mark with
  | .between => start? s.tokens c
  | .word chars =>
    if isWordChar c then some ⟨s.tokens, .word (c :: chars)⟩
    else do start? ((← wordToken? chars.reverse) :: s.tokens) c
  | .text chars =>
    if c = '"' then some ⟨.string (String.ofList chars.reverse) :: s.tokens, .between⟩
    else if c = '\\' then some ⟨s.tokens, .backslash chars⟩
    else if c.toNat < 32 then none
    else some ⟨s.tokens, .text (c :: chars)⟩
  | .backslash chars =>
    if c = 'u' then some ⟨s.tokens, .unicode chars none 0 4⟩
    else (escaped? c).map fun d => ⟨s.tokens, .text (d :: chars)⟩
  | .unicode chars high n left => do
    let n := 16 * n + (← hexDigit? c)
    if left ≤ 1 then return ⟨s.tokens, ← unicodeEnd? chars high n⟩
    else return ⟨s.tokens, .unicode chars high n (left - 1)⟩
  | .pair chars high => if c = '\\' then some ⟨s.tokens, .pairBackslash chars high⟩ else none
  | .pairBackslash chars high =>
    if c = 'u' then some ⟨s.tokens, .unicode chars (some high) 0 4⟩ else none

/-- the tokens of a text; a blank after it ends the last word -/
def tokens? (s : String) : Option (List Token) :=
  match (s.toList ++ [' ']).foldlM Lexed.step ⟨[], .between⟩ with
  | some ⟨tokens, .between⟩ => some tokens.reverse
  | _ => none

/-- what a value is in; items and members are kept back to front -/
inductive Frame
  | item (items : List Json)
  | member (members : List (String × Json)) (name : String)

inductive Parsed
  | value (stack : List Frame)
  | firstItem (stack : List Frame)
  | afterItem (stack : List Frame) (items : List Json)
  | firstName (stack : List Frame)
  | nextName (stack : List Frame) (members : List (String × Json))
  | colon (stack : List Frame) (members : List (String × Json)) (name : String)
  | afterMember (stack : List Frame) (members : List (String × Json))
  | done (v : Json)

def maxDepth : Nat := 127

def Parsed.put (v : Json) : List Frame → Parsed
  | [] => done v
  | .item items :: stack => afterItem stack (v :: items)
  | .member members name :: stack => afterMember stack ((name, v) :: members)

def Parsed.start? (stack : List Frame) : Token → Option Parsed
  | .scalar v => some (put v stack)
  | .string s => some (put (.string s) stack)
  | .arrayStart => if stack.length < maxDepth then some (firstItem stack) else none
  | .objectStart => if stack.length < maxDepth then some (firstName stack) else none
  | _ => none

def Parsed.step : Parsed → Token → Option Parsed
  | value stack, t => start? stack t
  | firstItem stack, .arrayEnd => some (put (.array []) stack)
  | firstItem stack, t => start? (.item [] :: stack) t
  | afterItem stack items, .comma => some (value (.item items :: stack))
  | afterItem stack items, .arrayEnd => some (put (.array items.reverse) stack)
  | firstName stack, .objectEnd => some (put (.object []) stack)
  | firstName stack, .string s => some (colon stack [] s)
  | nextName stack members, .string s => some (colon stack members s)
  | colon stack members name, .colon => some (value (.member members name :: stack))
  | afterMember stack members, .comma => some (nextName stack members)
  | afterMember stack members, .objectEnd => some (put (.object members.reverse) stack)
  | _, _ => none

def read? (s : String) : Option Json := do
  match (← tokens? s).foldlM Parsed.step (.value []) with
  | some (.done v) => some v
  | _ => none

end ColumnSql.Json
