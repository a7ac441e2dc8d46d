import ColumnSql.Text.Quoted

/-! A scan of SQL from left to right: texts in single quotes, names in the quotes of a dialect, in
both the closing quote written twice to stand for itself, and parentheses outside of quotes. A text
is balanced if the scan can go on after it as if it were not there. -/

namespace ColumnSql.Lexical

/-- the characters that quote names in some dialect -/
def nameQuotes : List Char := ['"', '\x60', '[', ']']

structure Quotes where
  left : Char
  right : Char
  left_mem : left ∈ nameQuotes
  right_mem : right ∈ nameQuotes

inductive Kind
  | text
  | name
deriving DecidableEq

def Quotes.opening (q : Quotes) : Kind → Char
  | .text => '\x27'
  | .name => q.left

def Quotes.closing (q : Quotes) : Kind → Char
  | .text => '\x27'
  | .name => q.right

inductive Mode
  | outside
  | inside (k : Kind)
  /-- right after a closing quote, which ends what is quoted unless another follows -/
  | closing (k : Kind)
deriving DecidableEq

/-- whether what is quoted, if anything, may end here -/
def Mode.isFree : Mode → Bool
  | inside _ => false
  | _ => true

structure State where
  mode : Mode
  depth : Nat
deriving DecidableEq

variable (q : Quotes)

/-- A closing parenthesis without an open one ends the scan. -/
def stepOutside (c : Char) (depth : Nat) : Option State :=
  if c = '\x27' then some ⟨.inside .text, depth⟩
  else if c = q.left then some ⟨.inside .name, depth⟩
  else if c = '(' then some ⟨.outside, depth + 1⟩
  else if c = ')' then
    match depth with
    | 0 => none
    | d + 1 => some ⟨.outside, d⟩
  else some ⟨.outside, depth⟩

def step (c : Char) : State → Option State
  | ⟨.outside, depth⟩ => stepOutside q c depth
  | ⟨.inside k, depth⟩ => some ⟨if c = q.closing k then .closing k else .inside k, depth⟩
  | ⟨.closing k, depth⟩ =>
    if c = q.closing k then some ⟨.inside k, depth⟩ else stepOutside q c depth

def scan : State → List Char → Option State
  | st, [] => some st
  | st, c :: s => (step q c st).bind fun st => scan st s

/-- The scan ends outside of all quotes and parentheses. -/
def wellFormed (s : String) : Bool :=
  match scan q ⟨.outside, 0⟩ s.toList with
  | some st => st.mode.isFree && st.depth = 0
  | none => false

/-- From outside of quotes, the scan of `s` gets back there at the same depth. -/
def Balanced (s : String) : Prop :=
  ∀ (m : Mode) (depth : Nat), m.isFree = true →
    ∃ n : Mode, n.isFree = true ∧ scan q ⟨m, depth⟩ s.toList = some ⟨n, depth⟩

/-- the characters that have a meaning for the scan in some dialect -/
def marks : List Char := '\x27' :: '(' :: ')' :: nameQuotes

def isPlain (c : Char) : Bool := c ∉ marks

def Plain (s : List Char) : Prop := ∀ c ∈ s, isPlain c = true

instance (s : List Char) : Decidable (Plain s) :=
  decidable_of_iff (s.all isPlain = true) List.all_eq_true

namespace Plain

variable {s : List Char} {c : Char}

theorem nil : Plain [] := by simp [Plain]

theorem cons (hc : isPlain c = true) (hs : Plain s) : Plain (c :: s) :=
  List.forall_mem_cons.2 ⟨hc, hs⟩

end Plain

variable {q}

theorem scan_append (st : State) (a b : List Char) :
    scan q st (a ++ b) = (scan q st a).bind fun st => scan q st b := by
  induction a generalizing st with
  | nil => rfl
  | cons c a ih =>
    rw [List.cons_append, scan, scan]
    cases step q c st with
    | none => rfl
    | some st => exact ih st

namespace Quotes

theorem ne_left {c : Char} (h : c ∉ nameQuotes) : c ≠ q.left := fun hc => h (hc ▸ q.left_mem)

theorem ne_right {c : Char} (h : c ∉ nameQuotes) : c ≠ q.right := fun hc => h (hc ▸ q.right_mem)

theorem opening_of_eq_right (k : Kind) (h : q.opening k = q.right) : q.opening k = q.left := by
  cases k with
  | text =>
    have ht : '\x27' ∉ nameQuotes := by decide
    exact absurd h (ne_right ht)
  | name => rfl

end Quotes

theorem isPlain_iff {c : Char} :
    isPlain c = true ↔ c ≠ '\x27' ∧ c ≠ '(' ∧ c ≠ ')' ∧ c ∉ nameQuotes := by
  simp [isPlain, marks]

theorem Quotes.ne_closing_of_isPlain {c : Char} (h : isPlain c = true) (k : Kind) :
    c ≠ q.closing k := by
  cases k with
  | text => exact (isPlain_iff.1 h).1
  | name => exact ne_right (isPlain_iff.1 h).2.2.2

theorem stepOutside_opening (k : Kind) (depth : Nat) :
    stepOutside q (q.opening k) depth = some ⟨.inside k, depth⟩ := by
  cases k with
  | text => exact if_pos rfl
  | name => exact (if_neg (Quotes.ne_left (by decide)).symm).trans (if_pos rfl)

theorem stepOutside_plain {c : Char} (h : isPlain c = true) (depth : Nat) :
    stepOutside q c depth = some ⟨.outside, depth⟩ := by
  obtain ⟨ht, ho, hc, hn⟩ := isPlain_iff.1 h
  simp [stepOutside, ht, Quotes.ne_left hn, ho, hc]

theorem stepOutside_add {c : Char} {depth : Nat} {st : State}
    (h : stepOutside q c depth = some st) (n : Nat) :
    stepOutside q c (depth + n) = some ⟨st.mode, st.depth + n⟩ := by
  unfold stepOutside at h ⊢
  by_cases ht : c = '\x27'
  · rw [if_pos ht] at h ⊢
    cases h
    rfl
  rw [if_neg ht] at h ⊢
  by_cases hl : c = q.left
  · rw [if_pos hl] at h ⊢
    cases h
    rfl
  rw [if_neg hl] at h ⊢
  by_cases ho : c = '('
  · rw [if_pos ho] at h ⊢
    cases h
    rw [Nat.add_right_comm]
  rw [if_neg ho] at h ⊢
  by_cases hc : c = ')'
  · rw [if_pos hc] at h ⊢
    cases depth with
    | zero => cases h
    | succ d =>
      cases h
      rw [Nat.add_right_comm]
  · rw [if_neg hc] at h ⊢
    cases h
    rfl

/-- Outside of quotes it does not matter whether they have just been closed, unless the closing
quote of names follows and is not an opening one. -/
theorem step_of_isFree {c : Char} (hc : c = q.right → c = q.left) {m : Mode}
    (h : m.isFree = true) (depth : Nat) : step q c ⟨m, depth⟩ = stepOutside q c depth := by
  cases m with
  | outside => rfl
  | inside k => cases h
  | closing k =>
    rw [step]
    by_cases hk : c = q.closing k
    · have ho : c = q.opening k := by
        cases k with
        | text => exact hk
        | name => exact hc hk
      rw [if_pos hk, ho, stepOutside_opening]
    · rw [if_neg hk]

theorem scan_plain {s : List Char} (h : Plain s) {m : Mode}
    (hm : m.isFree = true) (depth : Nat) :
    ∃ n : Mode, n.isFree = true ∧ scan q ⟨m, depth⟩ s = some ⟨n, depth⟩ := by
  induction s generalizing m with
  | nil => exact ⟨m, hm, rfl⟩
  | cons c s ih =>
    have hc := h c (List.mem_cons_self ..)
    have hr : c ≠ q.right := Quotes.ne_closing_of_isPlain hc .name
    rw [scan, step_of_isFree (fun h => absurd h hr) hm, stepOutside_plain hc]
    exact ih (fun x hx => h x (List.mem_cons_of_mem _ hx)) rfl

theorem scan_double (k : Kind) (s : List Char) (depth : Nat) :
    scan q ⟨.inside k, depth⟩ (Text.double (q.closing k) s) = some ⟨.inside k, depth⟩ := by
  induction s with
  | nil => rfl
  | cons c s ih =>
    rw [Text.double_cons]
    by_cases h : c = q.closing k
    · simpa [h, scan, step] using ih
    · simpa [h, scan, step] using ih

namespace Balanced

theorem empty : Balanced q "" := fun m _ hm => ⟨m, hm, rfl⟩

theorem append {a b : String} (ha : Balanced q a) (hb : Balanced q b) : Balanced q (a ++ b) := by
  intro m depth hm
  obtain ⟨n, hn, h₁⟩ := ha m depth hm
  obtain ⟨p, hp, h₂⟩ := hb n depth hn
  exact ⟨p, hp, by rw [String.toList_append, scan_append, h₁]; exact h₂⟩

theorem join {l : List String} (h : ∀ s ∈ l, Balanced q s) : Balanced q (String.join l) := by
  induction l with
  | nil => exact .empty
  | cons s l ih =>
    rw [String.join_cons]
    exact (h s (List.mem_cons_self ..)).append (ih fun x hx => h x (List.mem_cons_of_mem _ hx))

theorem intercalate {separator : String} (hs : Balanced q separator) {l : List String}
    (h : ∀ s ∈ l, Balanced q s) : Balanced q (separator.intercalate l) := by
  induction l with
  | nil => exact .empty
  | cons s l ih =>
    have hl := ih fun x hx => h x (List.mem_cons_of_mem _ hx)
    have hx := h s (List.mem_cons_self ..)
    cases l with
    | nil => rwa [String.intercalate_singleton]
    | cons x l =>
      rw [String.intercalate_cons_cons]
      exact (hx.append hs).append hl

theorem ofPlain {s : String} (h : Plain s.toList) : Balanced q s :=
  fun _ depth hm => scan_plain h hm depth

theorem quoted (k : Kind) (s : String) :
    Balanced q (Text.quoted (q.opening k) (q.closing k) s) := by
  intro m depth hm
  have ho : step q (q.opening k) ⟨m, depth⟩ = some ⟨.inside k, depth⟩ := by
    rw [step_of_isFree (Quotes.opening_of_eq_right k) hm, stepOutside_opening]
  refine ⟨.closing k, rfl, ?_⟩
  rw [Text.quoted, String.toList_ofList, List.cons_append, scan, ho, Option.bind_some,
    scan_append, scan_double]
  simp [scan, step]

theorem wellFormed {s : String} (h : Balanced q s) : wellFormed q s = true := by
  obtain ⟨n, hn, h⟩ := h .outside 0 rfl
  simp [Lexical.wellFormed, h, hn]

end Balanced

example : wellFormed ⟨'[', ']', by decide, by decide⟩ "f([a]]'(b], 'it''s)')" = true := by decide

example : wellFormed ⟨'[', ']', by decide, by decide⟩ "f([a]]'(b, 'it''s)')" = false := by decide

end ColumnSql.Lexical
