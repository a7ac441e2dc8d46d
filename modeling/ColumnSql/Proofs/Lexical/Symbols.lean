import ColumnSql.Expr.Basic
import ColumnSql.Proofs.Lexical.Scan

/-! The words and symbols of SQL with arithmetic. Blanks and symbols stand between words; in quotes,
all characters belong to the word. -/

namespace ColumnSql.Lexical

inductive Mark
  | arith (op : Operator)
  | modulo
deriving DecidableEq

def Mark.isSum : Mark → Bool
  | arith .plus | arith .minus => true
  | _ => false

inductive Symbol
  | word (w : List Char)
  | mark (m : Mark)
  | opening
  | closing
  | comma
deriving DecidableEq

section Cut

variable (q : Quotes)

/-- what stands between words: blanks, which mean nothing, and symbols of one character -/
def separator? : Char → Option (List Symbol)
  | ' ' => some []
  | '+' => some [.mark (.arith .plus)]
  | '-' => some [.mark (.arith .minus)]
  | '*' => some [.mark (.arith .multiply)]
  | '/' => some [.mark (.arith .divide)]
  | '%' => some [.mark .modulo]
  | '(' => some [.opening]
  | ')' => some [.closing]
  | ',' => some [.comma]
  | _ => none

def ended : List Char → List Symbol
  | [] => []
  | w => [.word w]

def cutFrom : Mode → List Char → List Char → Option (List Symbol)
  | m, w, [] => if m.isFree then some (ended w) else none
  | m, w, c :: s =>
    match if m.isFree then separator? c else none with
    | some between => (cutFrom .outside [] s).map (ended w ++ between ++ ·)
    | none => (step q c ⟨m, 0⟩).bind fun st => cutFrom st.mode (w ++ [c]) s

def cut (s : List Char) : Option (List Symbol) := cutFrom q .outside [] s

def Separated (s : List Char) : Prop := ∀ c ∈ s.head?, (separator? c).isSome = true

/-- The text has these symbols, whatever follows. -/
def Cuts (s : List Char) (l : List Symbol) : Prop :=
  ∀ r, Separated r → cut q (s ++ r) = (cut q r).map (l ++ ·)

def IsPart (s : List Char) : Prop :=
  ∃ m : Mode, m.isFree = true ∧ ∀ w r, cutFrom q .outside w (s ++ r) = cutFrom q m (w ++ s) r

structure IsWord (s : List Char) : Prop where
  isPart : IsPart q s
  ne_nil : s ≠ []

variable {q}

theorem cutFrom_separator {m : Mode} (hm : m.isFree = true) (w : List Char) {c : Char}
    {l : List Symbol} (h : separator? c = some l) (s : List Char) :
    cutFrom q m w (c :: s) = (cut q s).map (ended w ++ l ++ ·) := by
  rw [cutFrom, if_pos hm, h]
  rfl

theorem cut_separator {c : Char} {l : List Symbol} (h : separator? c = some l) (s : List Char) :
    cut q (c :: s) = (cut q s).map (l ++ ·) :=
  cutFrom_separator rfl [] h s

theorem cutFrom_step {m n : Mode} {c : Char} (hs : step q c ⟨m, 0⟩ = some ⟨n, 0⟩)
    (h : m.isFree = true → separator? c = none) (w s : List Char) :
    cutFrom q m w (c :: s) = cutFrom q n (w ++ [c]) s := by
  rw [cutFrom, hs]
  split
  next hc => simp_all
  next => rfl

theorem cutFrom_inside (w : List Char) (c : Char) (s : List Char) :
    cutFrom q (.inside .name) w (c :: s) =
      cutFrom q (if c = q.right then .closing .name else .inside .name) (w ++ [c]) s := rfl

theorem separator?_of_mem_nameQuotes {c : Char} (h : c ∈ nameQuotes) : separator? c = none := by
  have hn : nameQuotes.all (separator? · = none) := by decide
  exact of_decide_eq_true (List.all_eq_true.1 hn c h)

namespace IsPart

theorem ofPlain {s : List Char} (h : Plain s) (hs : ∀ c ∈ s, separator? c = none) :
    IsPart q s := by
  refine ⟨.outside, rfl, fun w r => ?_⟩
  induction s generalizing w with
  | nil => simp
  | cons c s ih =>
    have hc : step q c ⟨.outside, 0⟩ = some ⟨.outside, 0⟩ :=
      stepOutside_plain (h c (List.mem_cons_self ..)) 0
    rw [List.cons_append, cutFrom_step hc fun _ => hs c (List.mem_cons_self ..),
      ih (fun x hx => h x (List.mem_cons_of_mem _ hx))
        fun x hx => hs x (List.mem_cons_of_mem _ hx), List.append_assoc, List.singleton_append]

theorem cutFrom_double (s w r : List Char) :
    cutFrom q (.inside .name) w (Text.double q.right s ++ r) =
      cutFrom q (.inside .name) (w ++ Text.double q.right s) r := by
  induction s generalizing w with
  | nil => simp [Text.double_nil]
  | cons c s ih =>
    rw [Text.double_cons, List.append_assoc, ← List.append_assoc w]
    by_cases h : c = q.right
    · have ho : step q c ⟨.closing .name, 0⟩ = some ⟨.inside .name, 0⟩ := if_pos h
      have hs : separator? c = none := separator?_of_mem_nameQuotes (h ▸ q.right_mem)
      rw [if_pos h, List.cons_append, cutFrom_inside, if_pos h, List.singleton_append,
        cutFrom_step ho fun _ => hs, ih, List.append_assoc w]
      rfl
    · rw [if_neg h, List.singleton_append, cutFrom_inside, if_neg h, ih]

theorem quoted (name : String) : IsPart q (Text.quoted q.left q.right name).toList := by
  have ho : step q q.left ⟨.outside, 0⟩ = some ⟨.inside .name, 0⟩ := stepOutside_opening .name 0
  have hs : separator? q.left = none := separator?_of_mem_nameQuotes q.left_mem
  refine ⟨.closing .name, rfl, fun w r => ?_⟩
  rw [Text.quoted, String.toList_ofList, List.append_assoc, List.cons_append,
    cutFrom_step ho fun _ => hs, cutFrom_double, List.singleton_append, cutFrom_inside,
    if_pos rfl]
  simp

theorem append_point {a b : List Char} (ha : IsPart q a) (hb : IsPart q b) :
    IsPart q (a ++ '.' :: b) := by
  obtain ⟨m, hm, ha⟩ := ha
  obtain ⟨n, hn, hb⟩ := hb
  have hp : step q '.' ⟨m, 0⟩ = some ⟨.outside, 0⟩ := by
    rw [step_of_isFree (fun h => absurd h (Quotes.ne_right (by decide))) hm]
    exact stepOutside_plain (by decide) 0
  refine ⟨n, hn, fun w r => ?_⟩
  rw [List.append_assoc, ha, List.cons_append, cutFrom_step hp fun _ => rfl, hb]
  simp

end IsPart

theorem IsWord.cuts {s : List Char} (h : IsWord q s) : Cuts q s [.word s] := by
  obtain ⟨⟨m, hm, h⟩, hs⟩ := h
  obtain ⟨x, t, rfl⟩ := List.exists_cons_of_ne_nil hs
  intro r hr
  rw [cut, h, List.nil_append]
  cases r with
  | nil =>
    rw [cutFrom, if_pos hm]
    rfl
  | cons c r =>
    obtain ⟨l, hl⟩ := Option.isSome_iff_exists.1 (hr c rfl)
    rw [cutFrom_separator hm _ hl, cut_separator hl, Option.map_map]
    simp [Function.comp_def, ended]

namespace Cuts

variable {a b : List Char} {l k : List Symbol}

theorem empty : Cuts q [] [] := fun r _ => by simp

theorem eq_some (h : Cuts q a l) : cut q a = some l := by
  have := h [] (by simp [Separated])
  simpa [cut, cutFrom, Mode.isFree, ended] using this

theorem append (ha : Cuts q a l) {c : Char} {between : List Symbol}
    (hc : separator? c = some between) (hb : Cuts q b k) :
    Cuts q (a ++ c :: b) (l ++ between ++ k) := by
  intro r hr
  have hs : Separated (c :: (b ++ r)) := by
    rintro x ⟨⟩
    rw [hc]
    rfl
  rw [List.append_assoc, List.cons_append, ha _ hs, cut_separator hc, hb r hr, Option.map_map,
    Option.map_map]
  simp [Function.comp_def]

theorem cons {c : Char} {between : List Symbol} (hc : separator? c = some between)
    (hb : Cuts q b k) : Cuts q (c :: b) (between ++ k) := by
  simpa using empty.append hc hb

end Cuts

end Cut

end ColumnSql.Lexical
