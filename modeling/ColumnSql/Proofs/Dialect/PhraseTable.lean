import ColumnSql.Dialect.PhraseTable
import ColumnSql.Expr.Rendering

/-! Tables whose templates are those of their base. Such a table is the base: the quotes by phrases
are those that a built-in dialect has by itself, and all else is read from the templates. -/

namespace ColumnSql

open Text

theorem replaceFrom_singleton (c : Char) (s : List Char) :
    replaceFrom [c] [c, c] 0 s = double c s := by
  induction s with
  | nil => rfl
  | cons x s ih =>
    rw [replaceFrom, double_cons]
    by_cases h : x = c
    · subst h
      simp [ih]
    · simp [h, Ne.symm h, ih]

theorem quoteWith_singleton (left : String) (close : Char) (name : String) :
    Identifier.quoteWith left (String.ofList [close]) name =
      left ++ String.ofList (double close name.toList ++ [close]) := by
  have hc : (String.ofList [close]).isEmpty = false := by simp
  rw [Identifier.quoteWith, hc, if_neg (by decide), String.append_assoc]
  simp only [← String.ofList_append, String.toList_ofList, List.singleton_append, replaceAll,
    replaceFrom_singleton]

theorem quoted_eq_append (left close : Char) (name : String) : quoted left close name =
    String.ofList [left] ++ String.ofList (double close name.toList ++ [close]) := by
  rw [quoted, ← String.ofList_append]
  rfl

namespace Builtin

theorem quoteWith_template (b : Builtin) :
    Identifier.quoteWith (b.template .quotesOpen) (b.template .quotesClose) =
      b.quoteIdentifier := by
  funext name
  cases b <;> exact (quoteWith_singleton ..).trans (quoted_eq_append ..).symm

theorem accepts_template (b : Builtin) (p : Phrase) : p.accepts (b.template p) = true := by
  obtain ht | ⟨s, hs, h⟩ : b.template p = p.template ∨ ∃ s, b.template p = String.ofList s ∧
      (!p.takesOperand || s.isEmpty || s.contains '?') = true := by
    cases b <;> cases p <;> first
      | exact .inl rfl
      | exact .inr ⟨_, rfl, by decide⟩
  · rw [ht]
    exact p.accepts_template
  · simpa [hs, Phrase.accepts, Phrase.hasMark] using h

end Builtin

namespace PhraseTable

/-- The table has the templates of the dialect `b`, which is its base. -/
def Agrees (t : PhraseTable) (b : Builtin) : Prop := t.base = b ∧ t.phrase = b.template

theorem agrees_ofBase (b : Builtin) : (ofBase b).Agrees b := ⟨rfl, phrase_ofBase b⟩

theorem Agrees.set {t : PhraseTable} {b : Builtin} (h : t.Agrees b) (p : Phrase) :
    (t.set p (b.template p)).Agrees b := by
  refine ⟨h.1, funext fun q => ?_⟩
  by_cases hq : q = p
  · subst hq
    exact t.phrase_set_self q _
  · rw [t.phrase_set_of_ne hq, h.2]

theorem Agrees.add {t : PhraseTable} {b : Builtin} (h : t.Agrees b) {x : Phrase × String}
    (hx : x.2 = b.template x.1) : ∃ u, t.add x = .ok u ∧ u.Agrees b := by
  have hc : x.1.check x.2 = .ok () := by
    rw [Phrase.check, hx, b.accepts_template, if_pos rfl]
  refine ⟨t.set x.1 x.2, ?_, hx ▸ h.set x.1⟩
  rw [PhraseTable.add, hc]
  rfl

theorem Agrees.foldlM {b : Builtin} {overrides : List (Phrase × String)}
    (h : ∀ x ∈ overrides, x.2 = b.template x.1) {t : PhraseTable} (ht : t.Agrees b) :
    ∃ u, overrides.foldlM PhraseTable.add t = .ok u ∧ u.Agrees b := by
  induction overrides generalizing t with
  | nil => exact ⟨t, rfl, ht⟩
  | cons x r ih =>
    obtain ⟨u, hu, hub⟩ := ht.add (h x (List.mem_cons_self ..))
    rw [List.foldlM_cons, hu]
    exact ih (fun y hy => h y (List.mem_cons_of_mem _ hy)) hub

theorem Agrees.dialect_eq {t : PhraseTable} {b : Builtin} (h : t.Agrees b) :
    t.dialect = b.dialect := by
  obtain ⟨rfl, hp⟩ := h
  simp only [dialect, Builtin.dialect, hp, Builtin.quoteWith_template]

end PhraseTable

/-- Templates that are those of the base anyway are accepted, and with them each expression has the
same SQL as with the base. -/
theorem sql_table_eq_base (b : Builtin) (overrides : List (Phrase × String))
    (h : ∀ x ∈ overrides, x.2 = b.template x.1) :
    ∃ table, PhraseTable.ofOverrides b overrides = .ok table ∧
      ∀ (e : Expr) (ctx : Context),
        e.sql ⟨some table.dialect⟩ ctx = e.sql ⟨some b.dialect⟩ ctx := by
  obtain ⟨table, ht, hb⟩ := (PhraseTable.agrees_ofBase b).foldlM h
  refine ⟨table, ht, fun e ctx => ?_⟩
  rw [hb.dialect_eq]

theorem sql_table_eq_base_quotes :
    (∀ x ∈ [(Phrase.quotesOpen, "["), (.lower, "lower(?)"),
      (.quotesClose, "]"), (.quotesOpen, "[")], x.2 = Builtin.sqlServer.template x.1) ∧
    ∃ table, PhraseTable.ofOverrides .sqlServer
        [(Phrase.quotesOpen, "["), (.lower, "lower(?)"),
          (.quotesClose, "]"), (.quotesOpen, "[")] = .ok table ∧
      ∀ (e : Expr) (ctx : Context),
        e.sql ⟨some table.dialect⟩ ctx = e.sql ⟨some Builtin.sqlServer.dialect⟩ ctx :=
  have h := by decide
  ⟨h, sql_table_eq_base .sqlServer _ h⟩

end ColumnSql
