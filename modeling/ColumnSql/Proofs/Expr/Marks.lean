import ColumnSql.Proofs.Dialect.Overrides
import ColumnSql.Proofs.Expr.Built
import ColumnSql.Proofs.Expr.Operands
import ColumnSql.Proofs.Expr.Spliced

/-! The marks of templates. The operand stands in the place of the first `?` of a template, and that
there is one is all that is asked of it. So the marks of the SQL are those of the operand and of the
parameters, and all marks of the template but the first. -/

namespace ColumnSql

open Template

def marks (s : String) : Nat := s.toList.count '?'

@[simp] theorem marks_append (r s : String) : marks (r ++ s) = marks r + marks s := by
  simp [marks]

@[simp] theorem marks_ofList (s : List Char) : marks (String.ofList s) = s.count '?' := by
  simp [marks]

theorem marks_pos_iff {s : String} : 0 < marks s ↔ '?' ∈ s.toList := List.count_pos_iff

theorem marks_eq_of_first {s : String} {a b : List Char} (h : s.toList = a ++ '?' :: b)
    (ha : '?' ∉ a) : marks s = b.count '?' + 1 := by
  rw [marks, h, List.count_append, List.count_cons_self, List.count_eq_zero.2 ha, Nat.zero_add]

namespace Template

section Pieces

variable {c : Char}

theorem mem_of_verbatim_mem_piecesFrom {n : Nat} {s : List Char}
    (h : .verbatim c ∈ piecesFrom n s) : c ∈ s := by
  induction s generalizing n with
  | nil => cases n <;> cases h
  | cons x s ih =>
    cases n with
    | succ n => exact List.mem_cons_of_mem _ (ih h)
    | zero =>
      rw [piecesFrom] at h
      split at h
      · exact List.mem_cons_of_mem _ (ih (List.mem_of_ne_of_mem (by simp) h))
      · rcases List.mem_cons.1 h with h | h
        · cases h
          exact List.mem_cons_self ..
        · exact List.mem_cons_of_mem _ (ih h)

theorem count_verbatim_of_not_mem {s : List Char} (h : c ∉ s) :
    (pieces s).count (.verbatim c) = 0 :=
  List.count_eq_zero.2 fun hm => h (mem_of_verbatim_mem_piecesFrom hm)

/-- A character that no placeholder has stands for itself wherever it is. -/
theorem count_verbatim (h : IsBreak c) (s : List Char) :
    (pieces s).count (.verbatim c) = s.count c := by
  by_cases hc : c ∈ s
  · obtain ⟨a, b, he, ha⟩ := List.eq_append_cons_of_mem hc
    have hb : b.length < s.length := by
      rw [he, List.length_append, List.length_cons]
      omega
    rw [he, pieces_append_cons h, List.count_append, List.count_append, List.count_cons_self,
      List.count_cons_self, count_verbatim h b, count_verbatim_of_not_mem ha,
      List.count_eq_zero.2 ha]
  · rw [count_verbatim_of_not_mem hc, List.count_eq_zero.2 hc]
termination_by s.length

end Pieces

def parameters (ps : List Piece) : List Placeholder :=
  ps.filterMap fun
    | .parameter p => some p
    | .verbatim _ => none

def argumentMarks (arg : Placeholder → String) (ps : List Placeholder) : Nat :=
  (ps.flatMap fun p => (arg p).toList).count '?'

theorem argumentMarks_append (arg : Placeholder → String) (ps qs : List Placeholder) :
    argumentMarks arg (ps ++ qs) = argumentMarks arg ps + argumentMarks arg qs := by
  simp [argumentMarks]

variable (arg : Placeholder → String)

theorem count_flatMap_text (ps : List Piece) :
    (ps.flatMap (Piece.text arg)).count '?' =
      ps.count (.verbatim '?') + argumentMarks arg (parameters ps) := by
  induction ps with
  | nil => rfl
  | cons p ps ih =>
    rw [List.flatMap_cons, List.count_append, ih]
    cases p with
    | verbatim c =>
      have hp : parameters (.verbatim c :: ps) = parameters ps := rfl
      rw [hp]
      by_cases hc : c = '?'
      · subst hc
        rw [Piece.text, List.count_singleton_self, List.count_cons_self]
        omega
      · have hv : Piece.verbatim c ≠ .verbatim '?' := fun h => hc (Piece.verbatim.inj h)
        rw [Piece.text, List.count_singleton, List.count_cons_of_ne hv]
        simp [hc]
    | parameter p =>
      have hp : parameters (.parameter p :: ps) = p :: parameters ps := rfl
      rw [hp, Piece.text, List.count_cons_of_ne (by simp), argumentMarks, argumentMarks,
        List.flatMap_cons, List.count_append]
      omega

/-- Substitution keeps the marks of a text and adds those of the parameters. -/
theorem marks_substitute (s : List Char) :
    marks (substitute arg s) = s.count '?' + argumentMarks arg (parameters (pieces s)) := by
  rw [marks, toList_substitute, count_flatMap_text, count_verbatim isBreak_mark]

theorem marks_filled {template : String} (h : '?' ∈ template.toList) (operand : String) :
    marks (filled template arg operand) =
      marks operand + argumentMarks arg (placeholders template) + (marks template - 1) := by
  obtain ⟨a, b, he, ha⟩ := List.eq_append_cons_of_mem h
  have hp : parts template = (a, b) := by
    rw [parts, he, Text.splitFirst_append_cons ha]
    rfl
  have hs : placeholders template = parameters (pieces a) ++ parameters (pieces b) := by
    rw [placeholders, hp, List.filterMap_append]
    rfl
  rw [filled_eq he ha, marks_append, marks_append, marks_substitute, marks_substitute,
    List.count_eq_zero.2 ha, hs, argumentMarks_append, marks_eq_of_first he ha]
  omega

end Template

theorem Phrase.marks_template {p : Phrase} (hp : p.takesOperand = true) : marks p.template = 1 := by
  obtain ⟨s, hs, h⟩ : ∃ s, p.template = String.ofList s ∧
      (p.takesOperand = true → s.count '?' = 1) := by
    cases p <;> exact ⟨_, rfl, by decide⟩
  rw [hs, marks_ofList, h hp]

/-- A built-in dialect has no template of its own for a function, or one with one mark. -/
theorem Builtin.marks_template (b : Builtin) {p : Phrase} (hp : p.takesOperand = true) :
    b.template p = "" ∨ marks (b.template p) = 1 := by
  obtain ht | ⟨s, hs, h⟩ : b.template p = p.template ∨ ∃ s, b.template p = String.ofList s ∧
      (p.takesOperand = true → s = [] ∨ s.count '?' = 1) := by
    cases b <;> cases p <;> first
      | exact .inl rfl
      | exact .inr ⟨_, rfl, by decide⟩
  · rw [ht, Phrase.marks_template hp]
    exact .inr rfl
  · rw [hs, marks_ofList]
    exact (h hp).imp_left (congrArg String.ofList)

theorem Builtin.marks_phrase (b : Builtin) {p : Phrase} (hp : p.takesOperand = true) :
    marks (Target.phrase ⟨some b.dialect⟩ p) = 1 := by
  rcases Target.phrase_eq_or b.dialect p with h | ⟨hn, h⟩
  · rw [h, Phrase.marks_template hp]
  · rw [h]
    exact (b.marks_template hp).resolve_left hn

/-- a function of the dialect as a node has it: the phrase, the operand, and what stands for the
parameters -/
structure Filling where
  phrase : Phrase
  operand : Expr
  argument : Placeholder → String

/-- the function of the dialect that a node is; a decode has its cases as the one parameter -/
def Node.filling? (t : Target) (ctx : Context) : Node → Option Filling
  | .phrase e p params type _ _ =>
    some ⟨p, e, t.argument (params.map (Operand.textFor t ctx.inner)) type⟩
  | .decode e branches otherwise type =>
    some ⟨.decode, e, t.argument
      [t.literal (.raw (Branch.allSql branches otherwise e.dataType type t ctx.inner))] .unknown⟩
  | _ => none

theorem Node.sql_of_filling {n : Node} {t : Target} {ctx : Context} {f : Filling}
    (h : n.filling? t ctx = some f) :
    n.sql t ctx = filled (t.phrase f.phrase) f.argument (f.operand.sql t ctx.inner) := by
  cases n with
  | phrase e p params type update dataType =>
    cases h
    exact sql_phrase ..
  | decode e branches otherwise type =>
    cases h
    exact sql_decode ..
  | _ => cases h

/-- The marks of a function of the dialect: those of the operand and of the parameters, and those
that the template has too many. -/
theorem Node.marks_of_filling {n : Node} {t : Target} {ctx : Context} {f : Filling}
    (hp : f.phrase.takesOperand = true) (h : n.filling? t ctx = some f) :
    marks (n.sql t ctx) = marks (f.operand.sql t ctx.inner) +
      argumentMarks f.argument (placeholders (t.phrase f.phrase)) +
      (marks (t.phrase f.phrase) - 1) := by
  rw [sql_of_filling h]
  exact marks_filled f.argument (List.contains_iff_mem.1 (t.hasMark_phrase hp)) _

namespace Expr

variable {e r : Expr} {template : String} {update : Option Column} {aggregate : Bool}
  {type : Option DataType} {place : Place}

theorem exists_function_iff :
    (∃ r, e.function template update aggregate type place = .ok r) ↔ 0 < marks template := by
  simp only [function_eq_ok_iff, marks_pos_iff]
  constructor
  · rintro ⟨_, a, b, he, -⟩
    simp [he]
  · intro h
    obtain ⟨a, b, he, ha⟩ := List.eq_append_cons_of_mem h
    exact ⟨_, a, b, he, ha, rfl⟩

theorem marks_function (h : e.function template update aggregate type place = .ok r) (t : Target)
    (ctx : Context) : marks (r.sql t ctx) = marks (e.sql t ctx.inner) + (marks template - 1) := by
  obtain ⟨a, b, he, ha, rfl⟩ := function_eq_ok_iff.1 h
  rw [ofNode, sql_mk, Node.sql_wrap, marks_append, marks_append, marks_ofList, marks_ofList,
    List.count_eq_zero.2 ha, marks_eq_of_first he ha]
  omega

end Expr

namespace PhraseTable

variable {table u : PhraseTable} {p : Phrase} {s : String}

theorem add_eq_ok_iff : table.add (p, s) = .ok u ↔ p.Suits s ∧ table.set p s = u := by
  rw [add, ← Phrase.check_eq_ok_iff]
  cases p.check s with
  | error e => exact ⟨fun h => (by cases h), fun h => (by cases h.1)⟩
  | ok x => exact ⟨fun h => ⟨rfl, Except.ok.inj h⟩, fun h => congrArg Except.ok h.2⟩

theorem exists_add_iff (hp : p.takesOperand = true) :
    (∃ u, table.add (p, s) = .ok u) ↔ s = "" ∨ 0 < marks s := by
  simp only [add_eq_ok_iff, exists_and_left, exists_eq', and_true, Phrase.Suits, hp,
    Bool.true_eq_false, or_false, marks_pos_iff]

/-- A template that is accepted is used, unless it is empty. -/
theorem phrase_of_add (hp : p.takesOperand = true) (h : table.add (p, s) = .ok u) :
    Target.phrase ⟨some u.dialect⟩ p = if s = "" then p.template else s := by
  obtain ⟨hs, rfl⟩ := add_eq_ok_iff.1 h
  change (if ((table.set p s).phrase p).isEmpty || (p.takesOperand &&
    !Phrase.hasMark ((table.set p s).phrase p)) then _ else (table.set p s).phrase p) = _
  rw [table.phrase_set_self]
  by_cases he : s = ""
  · simp [he]
  · have hm : Phrase.hasMark s = true := by
      simpa [Phrase.Suits, he, hp, Phrase.hasMark] using hs
    simp [he, hm]

end PhraseTable

/-- In the built-in dialects no mark of a template is left. -/
theorem Builtin.marks_of_filling (b : Builtin) {n : Node} {ctx : Context} {f : Filling}
    (hp : f.phrase.takesOperand = true) (h : n.filling? ⟨some b.dialect⟩ ctx = some f) :
    marks (n.sql ⟨some b.dialect⟩ ctx) = marks (f.operand.sql ⟨some b.dialect⟩ ctx.inner) +
      argumentMarks f.argument (placeholders (Target.phrase ⟨some b.dialect⟩ f.phrase)) := by
  rw [Node.marks_of_filling hp h, b.marks_phrase hp, Nat.sub_self, Nat.add_zero]

theorem PhraseTable.marks_of_add {table u : PhraseTable} {s : String} {n : Node} {ctx : Context}
    {f : Filling} (hp : f.phrase.takesOperand = true) (hu : table.add (f.phrase, s) = .ok u)
    (h : n.filling? ⟨some u.dialect⟩ ctx = some f) :
    marks (n.sql ⟨some u.dialect⟩ ctx) = marks (f.operand.sql ⟨some u.dialect⟩ ctx.inner) +
      argumentMarks f.argument (placeholders (if s = "" then f.phrase.template else s)) +
      (marks s - 1) := by
  rw [Node.marks_of_filling hp h, phrase_of_add hp hu]
  by_cases hs : s = ""
  · have hm : marks s = 0 := by
      rw [hs]
      rfl
    rw [if_pos hs, Phrase.marks_template hp, hm]
  · rw [if_neg hs]

/-- A template is accepted if it has a mark, and as a function of the dialect also if it is empty.
The operand takes the place of the first mark, and all others stay: beside the marks of the operand
and of the parameters, the SQL has one less than the template. So none of the template is left
exactly if it has just one, or is the empty one. -/
theorem sql_marks (s : String) :
    (∀ (e : Expr) (update : Option Column) (aggregate : Bool) (type : Option DataType)
      (place : Place),
      ((∃ r, e.function s update aggregate type place = .ok r) ↔ 0 < marks s) ∧
      ∀ r, e.function s update aggregate type place = .ok r → ∀ (t : Target) (ctx : Context),
        let given := marks (e.sql t ctx.inner)
        marks (r.sql t ctx) = given + (marks s - 1) ∧
          (marks (r.sql t ctx) = given ↔ marks s = 1)) ∧
    ∀ (table : PhraseTable) (p : Phrase), p.takesOperand = true →
      ((∃ u, table.add (p, s) = .ok u) ↔ s = "" ∨ 0 < marks s) ∧
      ∀ u, table.add (p, s) = .ok u → ∀ (n : Node) (ctx : Context) (f : Filling),
        let t : Target := ⟨some u.dialect⟩
        n.filling? t ctx = some f → f.phrase = p →
        let given := marks (f.operand.sql t ctx.inner) +
          argumentMarks f.argument (placeholders (if s = "" then p.template else s))
        marks (n.sql t ctx) = given + (marks s - 1) ∧
          (marks (n.sql t ctx) = given ↔ s = "" ∨ marks s = 1) := by
  constructor
  · intro e update aggregate type place
    refine ⟨Expr.exists_function_iff, ?_⟩
    intro r hr t ctx given
    have hm : 0 < marks s := Expr.exists_function_iff.1 ⟨r, hr⟩
    have he : marks (r.sql t ctx) = given + (marks s - 1) := Expr.marks_function hr t ctx
    refine ⟨he, ?_⟩
    rw [he]
    omega
  · intro table p hp
    refine ⟨PhraseTable.exists_add_iff hp, ?_⟩
    intro u hu n ctx f t hf hfp given
    subst hfp
    have hm : s = "" ∨ 0 < marks s := (PhraseTable.exists_add_iff hp).1 ⟨u, hu⟩
    have he : marks (n.sql t ctx) = given + (marks s - 1) := PhraseTable.marks_of_add hp hu hf
    refine ⟨he, ?_⟩
    rw [he]
    rcases hm with rfl | hm
    · simp [marks]
    · have hs : s ≠ "" := fun h => absurd hm (by rw [h]; decide)
      simp only [hs, false_or]
      omega

/-- a template with two marks, and a parameter that has a third -/
theorem sql_marks_nvl :
    let a : Expr := .column ⟨none, "A", .varchar⟩ [0]
    let s := "nvl2(?, ?, {0})"
    let n : Node := .phrase a .coalesce [.ofText "why?"] .varchar none none
    (∃ r, a.function s none false none [1] = .ok r ∧
      ∀ (t : Target) (ctx : Context), marks (r.sql t ctx) = marks (a.sql t ctx.inner) + 1) ∧
    ∃ u, (PhraseTable.ofBase .generic).add (.coalesce, s) = .ok u ∧
      marks (n.sql ⟨some u.dialect⟩ .standard) = 0 + 1 + 1 := by
  intro a s n
  obtain ⟨hf, ht⟩ := sql_marks s
  obtain ⟨hm, hr⟩ := hf a none false none [1]
  obtain ⟨hu, hn⟩ := ht (.ofBase .generic) .coalesce rfl
  obtain ⟨r, h⟩ := hm.2 (by decide)
  obtain ⟨u, hu⟩ := hu.2 (.inr (by decide))
  have hs : marks s - 1 = 1 := by decide
  refine ⟨⟨r, h, fun t ctx => hs ▸ (hr r h t ctx).1⟩, ⟨u, hu, ?_⟩⟩
  obtain ⟨-, rfl⟩ := PhraseTable.add_eq_ok_iff.1 hu
  refine (hn _ hu n .standard _ rfl rfl).1.trans ?_
  decide +kernel

/-- Templates with two marks are accepted, and one is left in the SQL, which no operand has. -/
theorem function_leaves_mark :
    let t : Target := ⟨some Builtin.generic.dialect⟩
    let a : Expr := .column ⟨none, "A", .varchar⟩ [0]
    a.sql t .standard = "A" ∧
    (∃ r, a.function "f(?, ?)" none false none [1] = .ok r ∧ r.sql t .standard = "f(A, ?)") ∧
    ∃ u, (PhraseTable.ofBase .generic).add (.upper, "f(?, ?)") = .ok u ∧
      (a.upper [1]).sql ⟨some u.dialect⟩ .standard = "f(A, ?)" := by
  intro t a
  refine ⟨by decide +kernel, ⟨_, rfl, by decide +kernel⟩, ⟨_, rfl, by decide +kernel⟩⟩

end ColumnSql
