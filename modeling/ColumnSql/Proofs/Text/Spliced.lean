import ColumnSql.Template

/-! Texts that have another text in some places and are fixed around it. Such texts can be put one
after the other, joined in lists and substituted in templates, so they stay of that form however
they travel. -/

namespace ColumnSql

/-- Two texts of pieces with the same text between them are one: the last piece of the one and the
first of the other grow together. -/
theorem exists_intercalate_append {a b : List String} (ha : a ≠ []) (hb : b ≠ []) :
    ∃ c : List String, c ≠ [] ∧
      ∀ q : String, q.intercalate a ++ q.intercalate b = q.intercalate c := by
  induction a with
  | nil => exact absurd rfl ha
  | cons x r ih =>
    rcases List.eq_nil_or_concat r with rfl | ⟨_, _, hr⟩
    · obtain ⟨y, s, rfl⟩ := List.exists_cons_of_ne_nil hb
      exact ⟨(x ++ y) :: s, List.cons_ne_nil _ _, fun q => by simp⟩
    · have hr : r ≠ [] := by simp [hr]
      obtain ⟨c, hc, h⟩ := ih hr
      refine ⟨x :: c, List.cons_ne_nil _ _, fun q => ?_⟩
      rw [String.intercalate_cons_of_ne_nil hr, String.intercalate_cons_of_ne_nil hc, ← h q,
        String.append_assoc]

/-- `f i` is a fixed text around some occurrences of `q i`. -/
inductive Spliced {ι : Type} (q : ι → String) : (ι → String) → Prop
  | const (s : String) : Spliced q fun _ => s
  | self : Spliced q q
  | append {f g : ι → String} : Spliced q f → Spliced q g → Spliced q fun i => f i ++ g i

namespace Spliced

variable {ι : Type} {q f g : ι → String}

/-- The fixed pieces of such a text do not depend on what stands between them. -/
theorem exists_pieces (hf : Spliced q f) :
    ∃ pieces : List String, pieces ≠ [] ∧ ∀ i, f i = (q i).intercalate pieces := by
  induction hf with
  | const s => exact ⟨[s], by simp, fun i => by simp⟩
  | self => exact ⟨["", ""], by simp, fun i => by simp⟩
  | append _ _ h₁ h₂ =>
    obtain ⟨a, ha, hf⟩ := h₁
    obtain ⟨b, hb, hg⟩ := h₂
    obtain ⟨c, hc, h⟩ := exists_intercalate_append ha hb
    exact ⟨c, hc, fun i => by simp only [hf i, hg i, h]⟩

theorem join (before after : List String) (hf : Spliced q f) :
    Spliced q fun i => String.join (before ++ f i :: after) := by
  simp only [String.join_append, String.join_cons]
  exact (Spliced.const _).append (hf.append (.const _))

theorem intercalate (separator : String) (before after : List String) (hf : Spliced q f) :
    Spliced q fun i => separator.intercalate (before ++ f i :: after) := by
  have ha : Spliced q fun i => separator.intercalate (f i :: after) := by
    cases after with
    | nil => simpa only [String.intercalate_singleton] using hf
    | cons x r =>
      simp only [String.intercalate_cons_cons, String.append_assoc]
      exact hf.append (.const _)
  cases before with
  | nil => exact ha
  | cons x r =>
    have h (i : ι) := String.intercalate_append_of_ne_nil (s := separator)
      (List.cons_ne_nil x r) (List.cons_ne_nil (f i) after)
    simp only [h]
    exact (Spliced.const _).append ha

theorem flatMap (ps : List Template.Piece) {arg : ι → Template.Placeholder → String}
    (h : ∀ p, .parameter p ∈ ps → Spliced q fun i => arg i p) :
    Spliced q fun i => String.ofList (ps.flatMap (Template.Piece.text (arg i))) := by
  induction ps with
  | nil => exact .const (String.ofList [])
  | cons x r ih =>
    simp only [List.flatMap_cons, String.ofList_append]
    refine Spliced.append ?_ (ih fun p hp => h p (List.mem_cons_of_mem _ hp))
    cases x with
    | verbatim c => exact .const (String.ofList [c])
    | parameter p =>
      simpa only [Template.Piece.text, String.ofList_toList] using h p (List.mem_cons_self ..)

theorem substitute (s : List Char) {arg : ι → Template.Placeholder → String}
    (h : ∀ p, .parameter p ∈ Template.pieces s → Spliced q fun i => arg i p) :
    Spliced q fun i => Template.substitute (arg i) s :=
  flatMap (Template.pieces s) h

end Spliced

end ColumnSql
