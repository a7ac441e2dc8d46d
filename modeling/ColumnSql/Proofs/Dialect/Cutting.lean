import ColumnSql.Dialect.PhraseTable
import ColumnSql.Expr.Build
import ColumnSql.Proofs.Expr.Sql

/-! How templates are cut. A placeholder has a brace in front and no other, so that two placeholders
in a text are the same or apart from each other. Therefore a text is cut in just one way into
placeholders and texts without any. Substitution puts the parameters in the one and keeps the
other. -/

namespace ColumnSql

namespace Template

open Text Decimal

section

variable {a b c d : List Char}

theorem Spelling.brace_not_mem_inside (w : Spelling) : '\x7b' ∉ w.inside := by
  have hd : '\x7b' ∉ w.digits := fun h => by
    have := w.isNumber.2 _ h
    rw [isEdge_brace.digit] at this
    cases this
  have hn : '\x7b' ∉ ending w.name := by
    have ht := w.isTypeName
    cases hw : w.name with
    | none => simp [ending]
    | some s =>
      have hs : '\x7b' ∉ s := fun h => by
        have := (ht s hw).2 _ h
        rw [isEdge_brace.name] at this
        cases this
      simp [ending, hs]
  simp [inside, hd, hn]

theorem ending_injective : Function.Injective ending := by
  intro m n h
  cases m <;> cases n <;> simp_all [ending]

/-- At one place at most one placeholder is spelled. -/
theorem Spelling.text_append_inj {w x : Spelling} (h : w.text ++ a = x.text ++ b) :
    w = x ∧ a = b := by
  have hi : w.inside ++ a = x.inside ++ b := (List.cons.inj h).2
  have hw : inside? (w.inside ++ a) = some (w.placeholder, a) := inside?_eq_some_iff.2 ⟨w, rfl, rfl⟩
  have hx : inside? (w.inside ++ a) = some (x.placeholder, b) := inside?_eq_some_iff.2 ⟨x, hi, rfl⟩
  obtain rfl : a = b := by
    rw [hw, Option.some.injEq, Prod.mk.injEq] at hx
    exact hx.2
  have hd : w.digits = x.digits := by
    have := congrArg (List.takeWhile isDigit) hi
    rw [inside, inside, List.append_assoc, List.append_assoc,
      (takeWhile_digits w.isNumber.2 ..).1, (takeWhile_digits x.isNumber.2 ..).1] at this
    exact this
  have hn : w.name = x.name := by
    rw [List.append_cancel_right_eq, inside, inside, hd, List.append_cancel_left_eq] at hi
    exact ending_injective hi
  rcases w with ⟨digits, name, _, _⟩
  rcases x with ⟨digits', name', _, _⟩
  obtain rfl : digits = digits' := hd
  obtain rfl : name = name' := hn
  exact ⟨rfl, rfl⟩

theorem Spelling.eq_nil_or_prefix {w x : Spelling} (h : w.text ++ b = a ++ (x.text ++ d)) :
    (a = [] ∧ w = x ∧ b = d) ∨ ∃ m, a = w.text ++ m := by
  cases a with
  | nil => exact .inl ⟨rfl, text_append_inj h⟩
  | cons y a =>
    rcases List.append_eq_append_iff.1 h with ⟨m, ha, -⟩ | ⟨m, hw, hx⟩
    · exact .inr ⟨m, ha⟩
    cases m with
    | nil => exact .inr ⟨[], by rw [hw, List.append_nil, List.append_nil]⟩
    | cons z m =>
      -- the brace of the second would be in the first
      obtain rfl : '\x7b' = z := (List.cons.inj hx).1
      have hi : w.inside = a ++ '\x7b' :: m := (List.cons.inj hw).2
      exact absurd (hi ▸ List.mem_append_right _ (List.mem_cons_self ..)) w.brace_not_mem_inside

/-- Two placeholders in a text are the same, or the one is before the other. -/
theorem Spelling.eq_or_before {w x : Spelling} (h : a ++ (w.text ++ b) = c ++ (x.text ++ d)) :
    (a = c ∧ w = x ∧ b = d) ∨ (∃ m, c = a ++ (w.text ++ m)) ∨ ∃ m, a = c ++ (x.text ++ m) := by
  rcases List.append_eq_append_iff.1 h with ⟨g, rfl, hg⟩ | ⟨g, rfl, hg⟩
  · rcases eq_nil_or_prefix hg with ⟨rfl, hw⟩ | ⟨m, rfl⟩
    · exact .inl ⟨(List.append_nil a).symm, hw⟩
    · exact .inr (.inl ⟨m, rfl⟩)
  · rcases eq_nil_or_prefix hg with ⟨rfl, rfl, rfl⟩ | ⟨m, rfl⟩
    · exact .inl ⟨List.append_nil c, rfl, rfl⟩
    · exact .inr (.inr ⟨m, rfl⟩)

end

/-- No placeholder is spelled in the text. -/
def IsVerbatim (s : List Char) : Prop := ∀ w : Spelling, ¬ w.text <:+: s

theorem not_isVerbatim (a b : List Char) (w : Spelling) : ¬ IsVerbatim (a ++ (w.text ++ b)) :=
  fun h => h w ⟨a, b, List.append_assoc ..⟩

/-- a text cut at placeholders: what is before them, and each with what follows it -/
structure Cutting where
  first : List Char
  rest : List (Spelling × List Char)

namespace Cutting

def text (c : Cutting) : List Char := c.first ++ c.rest.flatMap fun x => x.1.text ++ x.2

def filled (c : Cutting) (arg : Placeholder → String) : List Char :=
  c.first ++ c.rest.flatMap fun x => (arg x.1.placeholder).toList ++ x.2

/-- No placeholder is left in what is between those of the cutting. -/
structure IsExact (c : Cutting) : Prop where
  first : IsVerbatim c.first
  rest : ∀ x ∈ c.rest, IsVerbatim x.2

def join (a : Cutting) (w : Spelling) (b : Cutting) : Cutting :=
  ⟨a.first, a.rest ++ (w, b.first) :: b.rest⟩

theorem text_join (a : Cutting) (w : Spelling) (b : Cutting) :
    (a.join w b).text = a.text ++ (w.text ++ b.text) := by
  simp [join, text]

theorem text_nil (s : List Char) : text ⟨s, []⟩ = s := List.append_nil s

theorem text_cons (s : List Char) (w : Spelling) (v : List Char)
    (r : List (Spelling × List Char)) : text ⟨s, (w, v) :: r⟩ = s ++ (w.text ++ text ⟨v, r⟩) := by
  simp [text]

theorem IsExact.tail {s v : List Char} {w : Spelling} {r : List (Spelling × List Char)}
    (h : IsExact ⟨s, (w, v) :: r⟩) : IsExact ⟨v, r⟩ where
  first := h.rest (w, v) (List.mem_cons_self ..)
  rest x hx := h.rest x (List.mem_cons_of_mem _ hx)

theorem IsExact.join {a b : Cutting} (ha : a.IsExact) (hb : b.IsExact) (w : Spelling) :
    (a.join w b).IsExact where
  first := ha.first
  rest x hx := by
    rcases List.mem_append.1 hx with hx | hx
    · exact ha.rest x hx
    · rcases List.mem_cons.1 hx with rfl | hx
      · exact hb.first
      · exact hb.rest x hx

theorem exists_isExact (s : List Char) : ∃ c : Cutting, c.text = s ∧ c.IsExact := by
  by_cases h : IsVerbatim s
  · exact ⟨⟨s, []⟩, text_nil s, h, nofun⟩
  · simp only [IsVerbatim, not_forall, not_not] at h
    obtain ⟨w, a, b, h⟩ := h
    have hl : a.length + (w.inside.length + 1) + b.length = s.length := by
      rw [← h, List.length_append, List.length_append, Spelling.text, List.length_cons]
    have ha : a.length < s.length := by omega
    have hb : b.length < s.length := by omega
    obtain ⟨x, rfl, hx⟩ := exists_isExact a
    obtain ⟨y, rfl, hy⟩ := exists_isExact b
    exact ⟨x.join w y, by rw [text_join, ← List.append_assoc, h], hx.join hy w⟩
termination_by s.length

theorem IsExact.unique {c d : Cutting} (hc : c.IsExact) (hd : d.IsExact) (h : c.text = d.text) :
    c = d := by
  rcases c with ⟨s, r⟩
  rcases d with ⟨t, q⟩
  induction r generalizing s t q with
  | nil =>
    cases q with
    | nil => rw [← text_nil s, h, text_nil]
    | cons y q =>
      rw [text_nil, text_cons] at h
      exact absurd hc.first (h ▸ not_isVerbatim _ _ _)
  | cons x r ih =>
    rcases x with ⟨w, v⟩
    cases q with
    | nil =>
      rw [text_nil, text_cons] at h
      exact absurd hd.first (h ▸ not_isVerbatim _ _ _)
    | cons y q =>
      rcases y with ⟨x, u⟩
      rw [text_cons, text_cons] at h
      -- an earlier placeholder of the one would be in what is before that of the other
      rcases Spelling.eq_or_before h with ⟨rfl, rfl, ht⟩ | ⟨m, rfl⟩ | ⟨m, rfl⟩
      · cases ih v hc.tail u q hd.tail ht
        rfl
      · exact absurd hd.first (not_isVerbatim _ _ _)
      · exact absurd hc.first (not_isVerbatim _ _ _)

end Cutting

/-- What is found as a placeholder is spelled as one. -/
theorem IsVerbatim.not_hasPlaceholder {s : List Char} (h : IsVerbatim s) : ¬ HasPlaceholder s := by
  induction s with
  | nil => simp [HasPlaceholder, pieces_nil]
  | cons c s ih =>
    have hs : IsVerbatim s := fun w hw => h w (hw.trans (List.suffix_cons c s).isInfix)
    rcases pieces_cons c s with hc | ⟨rfl, p, r, hc⟩
    · simpa [HasPlaceholder, hc] using ih hs
    · rw [pieces_brace] at hc
      split at hc
      next p rest hi =>
        obtain ⟨w, rfl, -⟩ := inside?_eq_some_iff.1 hi
        exact absurd h (not_isVerbatim [] rest w)
      next => cases hc

theorem Cutting.IsExact.substitute_text {c : Cutting} (h : c.IsExact)
    (arg : Placeholder → String) : substitute arg c.text = String.ofList (c.filled arg) := by
  rcases c with ⟨s, r⟩
  induction r generalizing s with
  | nil => simp [text, filled, substitute_of_not_hasPlaceholder h.first.not_hasPlaceholder]
  | cons x r ih =>
    rw [text_cons, substitute_append_text, ih x.2 h.tail,
      substitute_of_not_hasPlaceholder h.first.not_hasPlaceholder]
    apply String.toList_injective
    simp [filled]

theorem Spelling.index_placeholder_eq_some_iff {w : Spelling} {n : Nat} :
    w.placeholder.index = some n ↔
      (∀ c ∈ w.digits, c.isDigit = true) ∧ digitsValue w.digits = n ∧ n < UInt64.size := by
  rw [placeholder, index?, Option.ite_none_right_eq_some, List.all_eq_true, and_assoc]
  refine and_congr_right fun _ => ?_
  rw [Option.some.injEq, and_comm]
  exact and_congr_right fun hn => by rw [hn]

/-- A text is cut in just one way into placeholders and texts without any, and wherever a
placeholder is spelled it is cut there, so that no other one stands to the left of the first.
Substitution puts what is asked for in the places of these, keeps the rest, and reads nothing of it
again. A number that is too large or not in ASCII digits is that of no parameter. Thus a template
with a place for the operand is written as its two parts, each substituted by itself, with the SQL
of the operand between them. -/
theorem substitute_cutting (s : String) :
    (∃ c : Cutting, c.text = s.toList ∧ c.IsExact ∧
      (∀ d : Cutting, d.text = s.toList → d.IsExact → d = c) ∧
      (∀ (a b : List Char) (w : Spelling), s.toList = a ++ w.text ++ b →
        ∃ x y : Cutting, x.text = a ∧ y.text = b ∧ c = x.join w y) ∧
      ∀ arg, substitute arg s.toList = String.ofList (c.filled arg)) ∧
    (∀ (w : Spelling) (n : Nat), w.placeholder.index = some n ↔
      (∀ c ∈ w.digits, c.isDigit = true) ∧ digitsValue w.digits = n ∧ n < UInt64.size) ∧
    (∀ (t : Target) (params : List (DataType → String)) (type : DataType)
      (hint : Option DataType) (n : Nat), params.length ≤ n →
        t.argument params type ⟨none, hint⟩ = t.argument params type ⟨some n, hint⟩) ∧
    ∀ before after : List Char, s.toList = before ++ '?' :: after → '?' ∉ before →
      ∀ (arg : Placeholder → String) (e : Expr) (ctx : Context) (out : SqlBuffer),
        out.fill s arg (e.write ctx) =
          out.append (substitute arg before ++ e.sql out.target ctx ++ substitute arg after) := by
  refine ⟨?_, fun w n => Spelling.index_placeholder_eq_some_iff, ?_, ?_⟩
  · obtain ⟨c, hc, he⟩ := Cutting.exists_isExact s.toList
    refine ⟨c, hc, he, fun d hd h => h.unique he (hd.trans hc.symm), ?_, fun arg => ?_⟩
    · intro a b w h
      obtain ⟨x, rfl, hx⟩ := Cutting.exists_isExact a
      obtain ⟨y, rfl, hy⟩ := Cutting.exists_isExact b
      refine ⟨x, y, rfl, rfl, he.unique (hx.join hy w) ?_⟩
      rw [hc, h, Cutting.text_join, List.append_assoc]
    · rw [← hc, he.substitute_text]
  · intro t params type hint n hn
    simp [Target.argument, List.getElem?_eq_none hn]
  · intro before after h hb arg e ctx out
    rw [← filled_eq h hb]
    exact Appends.fill s arg (e.appends out.target ctx) out rfl

/-- braces that make no placeholder beside ones that do, and a parameter with marks of its own -/
theorem substitute_cutting_braces :
    let arg : Placeholder → String := fun p =>
      if p.index = some 0 then "\x7b1\x7d ?" else if p.hint = some .integer then "7" else "null"
    let s := "f(\x7b\x7b0\x7d, ?, \x7b1:A1\x7d\x7b1:INT\x7d?)"
    '?' ∉ "f(\x7b\x7b0\x7d, ".toList ∧ ∀ (e : Expr) (t : Target) (ctx : Context),
      ((SqlBuffer.empty t).fill s arg (e.write ctx)).text =
        "f(\x7b\x7b1\x7d ?, " ++ e.sql t ctx ++ ", \x7b1:A1\x7d7?)" := by
  intro arg s
  have hb : '?' ∉ "f(\x7b\x7b0\x7d, ".toList := by decide
  have hs : s.toList = "f(\x7b\x7b0\x7d, ".toList ++
      '?' :: ", \x7b1:A1\x7d\x7b1:INT\x7d?)".toList := by decide +kernel
  refine ⟨hb, fun e t ctx => ?_⟩
  rw [(substitute_cutting s).2.2.2 _ _ hs hb arg e ctx]
  have h₁ : substitute arg "f(\x7b\x7b0\x7d, ".toList = "f(\x7b\x7b1\x7d ?, " := by
    decide +kernel
  have h₂ : substitute arg ", \x7b1:A1\x7d\x7b1:INT\x7d?)".toList = ", \x7b1:A1\x7d7?)" := by
    decide +kernel
  rw [h₁, h₂]
  exact String.empty_append

/-- A zero of another script makes a placeholder, but not that of the first parameter. -/
theorem substitute_other_zero :
    let arg : Placeholder → String := fun p => if p.index = some 0 then "first" else "null"
    let s := ['\x7b', '٠', '\x7d']
    Text.isDigit '٠' = true ∧ substitute arg s = "null" ∧ substitute arg s ≠ arg ⟨some 0, none⟩ ∧
      substitute arg s ≠ String.ofList s ∧
    ∃ table r, PhraseTable.ofOverrides .generic [(.coalesce, "nvl(?, \x7b٠\x7d)")] = .ok table ∧
      (Expr.column ⟨none, "A", .integer⟩ [0]).coalesce (.value (.int 5)) [1] = .ok r ∧
      r.sql ⟨some table.dialect⟩ .standard = "nvl(A, null)" := by
  intro arg s
  have hs : substitute arg s = "null" := by decide +kernel
  refine ⟨by decide +kernel, hs, ?_, ?_, _, _, rfl, rfl, by decide +kernel⟩ <;> rw [hs] <;> decide

end Template

end ColumnSql
