/-! The texts of TOML: blanks, comments, keys and the four kinds of strings. -/

namespace ColumnSql.Toml

def isSpace (c : Char) : Bool := c = ' ' || c = '\t'

def isControl (c : Char) : Bool := (c.toNat < 32 && c ≠ '\t') || c.toNat = 127

def skipSpaces (s : List Char) : List Char := s.dropWhile isSpace

def skipLines? : Bool → List Char → Option (List Char)
  | _, [] => some []
  | _, '\n' :: s => skipLines? false s
  | _, '\r' :: '\n' :: s => skipLines? false s
  | true, c :: s => if isControl c then none else skipLines? true s
  | false, c :: s =>
    if c = '#' then skipLines? true s else if isSpace c then skipLines? false s else some (c :: s)

def skipComment? : List Char → Option (List Char)
  | [] => some []
  | '\n' :: s => some s
  | '\r' :: '\n' :: s => some s
  | c :: s => if isControl c then none else skipComment? s

/-- the end of a line on which nothing is left but a comment -/
def lineEnd? (s : List Char) : Option (List Char) :=
  match skipSpaces s with
  | [] => some []
  | '\n' :: s => some s
  | '\r' :: '\n' :: s => some s
  | '#' :: s => skipComment? s
  | _ => none

def hexDigit? (c : Char) : Option Nat :=
  if c.isDigit then some (c.toNat - 48)
  else if 'a' ≤ c ∧ c ≤ 'f' then some (c.toNat - 87)
  else if 'A' ≤ c ∧ c ≤ 'F' then some (c.toNat - 55)
  else none

def hexChar? (n : Nat) (s : List Char) : Option (Char × Nat) := do
  let digits ← (s.take n).mapM hexDigit?
  let code := digits.foldl (fun a d => 16 * a + d) 0
  if digits.length = n ∧ code.isValidChar then some (Char.ofNat code, n + 1) else none

def escape? : List Char → Option (Char × Nat)
  | 'b' :: _ => some ('\x08', 1)
  | 't' :: _ => some ('\t', 1)
  | 'n' :: _ => some ('\n', 1)
  | 'f' :: _ => some ('\x0c', 1)
  | 'r' :: _ => some ('\r', 1)
  | 'e' :: _ => some ('\x1b', 1)
  | '"' :: _ => some ('"', 1)
  | '\\' :: _ => some ('\\', 1)
  | 'x' :: s => hexChar? 2 s
  | 'u' :: s => hexChar? 4 s
  | 'U' :: s => hexChar? 8 s
  | _ => none

/-- the text up to a double quote, after `n` characters to be passed over, and what follows it -/
def basic? : Nat → List Char → Option (List Char × List Char)
  | _, [] => none
  | n + 1, _ :: s => basic? n s
  | 0, c :: s =>
    if c = '"' then some ([], s)
    else if c = '\\' then do
      let (d, n) ← escape? s
      let (text, rest) ← basic? n s
      return (d :: text, rest)
    else if isControl c then none
    else (basic? 0 s).map fun x => (c :: x.1, x.2)

def verbatim? : List Char → Option (List Char × List Char)
  | [] => none
  | c :: s =>
    if c = '\x27' then some ([], s)
    else if isControl c then none
    else (verbatim? s).map fun x => (c :: x.1, x.2)

def breakLength : List Char → Nat
  | ' ' :: s => breakLength s + 1
  | '\t' :: s => breakLength s + 1
  | '\n' :: s => breakLength s + 1
  | '\r' :: '\n' :: s => breakLength s + 2
  | _ => 0

def endsLine (s : List Char) : Bool :=
  match skipSpaces s with
  | '\n' :: _ => true
  | '\r' :: '\n' :: _ => true
  | _ => false

/-- Where the quotes at the start end a text of several lines: the quotes before the last three, at
most two, are its own. The length is that of the text's own and the closing quotes. -/
def closing? (quote : Char) (s : List Char) : Option (List Char × Nat) :=
  let run := (s.takeWhile (· = quote)).length
  if run < 3 then none else some (List.replicate (min (run - 3) 2) quote, min (run - 3) 2 + 3)

/-- whether a character may stand in a text of several lines, with `s` after it -/
def inLines (c : Char) (s : List Char) : Bool :=
  c = '\n' || (c = '\r' && s.head? = some '\n') || !isControl c

def basicLines? : Nat → List Char → Option (List Char × List Char)
  | _, [] => none
  | n + 1, _ :: s => basicLines? n s
  | 0, c :: s =>
    match closing? '"' (c :: s) with
    | some (own, n) => some (own, (c :: s).drop n)
    | none =>
      if c = '\\' then
        if endsLine s then basicLines? (breakLength s) s
        else do
          let (d, n) ← escape? s
          let (text, rest) ← basicLines? n s
          return (d :: text, rest)
      else if inLines c s then (basicLines? 0 s).map fun x => (c :: x.1, x.2)
      else none

def verbatimLines? : List Char → Option (List Char × List Char)
  | [] => none
  | c :: s =>
    match closing? '\x27' (c :: s) with
    | some (own, n) => some (own, (c :: s).drop n)
    | none =>
      if inLines c s then (verbatimLines? s).map fun x => (c :: x.1, x.2) else none

def afterBreak : List Char → List Char
  | '\n' :: s => s
  | '\r' :: '\n' :: s => s
  | s => s

def shortString? : List Char → Option (List Char × List Char)
  | '"' :: s => basic? 0 s
  | '\x27' :: s => verbatim? s
  | _ => none

def string? : List Char → Option (List Char × List Char)
  | '"' :: '"' :: '"' :: s => basicLines? 0 (afterBreak s)
  | '\x27' :: '\x27' :: '\x27' :: s => verbatimLines? (afterBreak s)
  | s => shortString? s

def isKeyChar (c : Char) : Bool := c.isAlphanum || c = '_' || c = '-'

def key? (s : List Char) : Option (String × List Char) :=
  match s.takeWhile isKeyChar with
  | [] => (shortString? s).map fun x => (String.ofList x.1, x.2)
  | word => some (String.ofList word, s.dropWhile isKeyChar)

def keysFrom? : Nat → List Char → Option (List String × List Char)
  | 0, _ => none
  | n + 1, s => do
    let (key, s) ← key? (skipSpaces s)
    match skipSpaces s with
    | '.' :: s =>
      let (keys, s) ← keysFrom? n s
      return (key :: keys, s)
    | s => return ([key], s)

def maxKeys : Nat := 80

def keys? (s : List Char) : Option (List String × List Char) :=
  (keysFrom? s.length s).filter fun x => x.1.length ≤ maxKeys

end ColumnSql.Toml
