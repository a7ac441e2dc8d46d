import ColumnSql.Proofs.Expr.Composition
import ColumnSql.Proofs.Expr.Induction

/-! Going down in an expression, and which nodes that leads to. Some nodes may be closed: one comes
to them, but not to what is in them. -/

namespace ColumnSql

/-- The walk goes from `e` down to `x`, and through no closed node. -/
def Expr.Reaches (closed : Node → Bool) : Expr → Expr → Prop :=
  Relation.ReflTransGen fun e x => closed e.node = false ∧ x ∈ e.node.parts

theorem Node.induction_parts {M : Node → Prop} (step : ∀ n, (∀ x ∈ n.parts, M x.node) → M n) :
    Induction M fun v => ∀ x ∈ v.exprs, M x.node where
  column c := step _ (by simp [Node.parts])
  constant v t := step _ (by simp [Node.parts])
  constantFor c v hc := step _ (by simpa [Node.parts] using hc)
  arith e op v he hv := step _ (by simpa [Node.parts] using ⟨he, hv⟩)
  concat e v he hv := step _ (by simpa [Node.parts] using ⟨he, hv⟩)
  concatAll e separator others he ho := step _ (by simpa [Node.parts] using ⟨he, ho⟩)
  wrap e _ _ _ _ _ he := step _ (by simpa [Node.parts] using he)
  phrase e _ params _ _ _ he hp := by
    refine step _ fun x hx => ?_
    rcases List.mem_cons.1 hx with rfl | hx
    · exact he
    · obtain ⟨v, hv, hx⟩ := List.mem_flatMap.1 hx
      exact hp v hv x hx
  convert e _ _ he := step _ (by simpa [Node.parts] using he)
  call _ e _ _ he := step _ (by simpa [Node.parts] using he)
  callTwo _ a _ b _ _ ha hb := step _ (by simpa [Node.parts] using ⟨ha, hb⟩)
  decode e branches otherwise t he hb ho := by
    refine step _ fun x hx => ?_
    rcases List.mem_append.1 hx with hx | hx
    · rcases List.mem_cons.1 hx with rfl | hx
      · exact he
      · obtain ⟨b, hm, hx⟩ := List.mem_flatMap.1 hx
        exact (List.mem_append.1 hx).elim ((hb b hm).1 x) ((hb b hm).2 x)
    · obtain ⟨v, hv, hx⟩ := List.mem_flatMap.1 hx
      exact ho v (Option.mem_toList.1 hv) x hx
  named e _ he := step _ (by simpa [Node.parts] using he)
  expr e he := by simpa [Operand.exprs] using he
  value v := by simp [Operand.exprs]
  list items hi := by
    intro x hx
    rw [Operand.exprs, Operand.allExprs_eq] at hx
    obtain ⟨v, hv, hx⟩ := List.mem_flatMap.1 hx
    exact hi v hv x hx

theorem Expr.induction_parts {M : Expr → Prop} (step : ∀ e, (∀ x ∈ e.node.parts, M x) → M e)
    (e : Expr) : M e := by
  let N (n : Node) : Prop := ∀ e : Expr, e.node = n → M e
  have h : Induction N fun v => ∀ x ∈ v.exprs, N x.node :=
    Node.induction_parts fun n ih => by
      rintro e rfl
      exact step e fun x hx => ih x hx x rfl
  exact h.ofNode e.node e rfl

/-- What an expression has of its own, or, if its node is not closed, by what is in it, it has by
one that the walk leads to. -/
theorem Expr.iff_exists_reaches {closed : Node → Bool} {own P : Node → Prop}
    (h : ∀ n, P n ↔ own n ∨ closed n = false ∧ ∃ x ∈ n.parts, P x.node) (e : Expr) :
    P e.node ↔ ∃ x, e.Reaches closed x ∧ own x.node := by
  constructor
  · induction e using Expr.induction_parts with
    | step e ih =>
      intro hp
      rcases (h _).1 hp with ho | ⟨hc, x, hx, hp⟩
      · exact ⟨e, .refl, ho⟩
      · obtain ⟨y, hy, ho⟩ := ih x hx hp
        exact ⟨y, .head ⟨hc, hx⟩ hy, ho⟩
  · rintro ⟨x, hx, ho⟩
    -- along the walk, from its end
    induction hx using Relation.ReflTransGen.head_induction_on with
    | refl => exact (h _).2 (.inl ho)
    | head hs _ ih => exact (h _).2 (.inr ⟨hs.1, _, hs.2, ih⟩)

end ColumnSql
