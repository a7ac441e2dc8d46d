import ColumnSql.Proofs.Expr.Reach

/-! Which expressions aggregate: those from whose root one comes to a function that does, on a way
that ends at calls and at constants for columns. Whatever is put in the place of a part, if it
aggregates, the whole does not cease to. -/

namespace ColumnSql

namespace Node

def aggregates : Node → Bool
  | .wrap _ _ _ _ aggregate _ => aggregate
  | .phrase _ p _ _ _ _ => p.isAggregate
  | _ => false

/-- whether the node is not asked for its parts: a call, or a constant for a column -/
def hidesParts : Node → Bool
  | .constantFor .. | .call .. | .callTwo .. => true
  | _ => false

end Node

theorem Expr.isAggregate_node (e : Expr) : e.isAggregate = e.node.isAggregate := by
  cases e
  simp only [isAggregate, node]

theorem Expr.anyAggregate_eq (es : List Expr) : anyAggregate es = es.any isAggregate := by
  induction es with
  | nil => rfl
  | cons e r ih => rw [anyAggregate, ih, List.any_cons]

mutual

theorem Operand.isAggregate_eq : ∀ v : Operand, v.isAggregate = v.exprs.any Expr.isAggregate
  | .expr e => by simp [isAggregate, exprs]
  | .value _ => rfl
  | .list items => Operand.anyAggregate_exprs items

theorem Operand.anyAggregate_exprs :
    ∀ vs : List Operand, anyAggregate vs = (allExprs vs).any Expr.isAggregate
  | [] => rfl
  | v :: r => by
    rw [anyAggregate, allExprs, List.any_append, Operand.isAggregate_eq v,
      Operand.anyAggregate_exprs r]

end

theorem Branch.anyAggregate_exprs (bs : List Branch) :
    anyAggregate bs =
      (bs.flatMap fun b => b.key.exprs ++ b.result.exprs).any Expr.isAggregate := by
  induction bs with
  | nil => rfl
  | cons b r ih =>
    rcases b with ⟨k, x⟩
    rw [anyAggregate, ih, isAggregate, k.isAggregate_eq, x.isAggregate_eq, List.flatMap_cons,
      List.any_append, List.any_append, key, result]

theorem Node.isAggregate_eq {n : Node} (h : n.hidesParts = false) :
    n.isAggregate = (n.aggregates || n.parts.any Expr.isAggregate) := by
  cases n with
  | column | constant => rfl
  | constantFor | call | callTwo => cases h
  | arith e op v | concat e v => simp [isAggregate, aggregates, parts, v.isAggregate_eq]
  | concatAll e separator others => simp [isAggregate, aggregates, parts, Expr.anyAggregate_eq]
  | phrase e p params type update t =>
    simp [isAggregate, aggregates, parts, Operand.anyAggregate_exprs, Operand.allExprs_eq,
      Bool.or_assoc]
  | decode e branches otherwise t =>
    cases otherwise <;>
      simp [isAggregate, aggregates, parts, Branch.anyAggregate_exprs, Operand.isAggregate_eq,
        Bool.or_assoc]
  | wrap | convert | named => simp [isAggregate, aggregates, parts]

theorem Node.isAggregate_iff (n : Node) :
    n.isAggregate = true ↔ n.aggregates = true ∨
      n.hidesParts = false ∧ ∃ x ∈ n.parts, x.node.isAggregate = true := by
  cases h : n.hidesParts with
  | true =>
    cases n with
    | constantFor | call | callTwo => simp [isAggregate, aggregates]
    | _ => cases h
  | false =>
    rw [isAggregate_eq h]
    simp [Expr.isAggregate_node]

theorem Expr.isAggregate_iff_reaches (e : Expr) :
    e.isAggregate = true ↔ ∃ x, e.Reaches Node.hidesParts x ∧ x.node.aggregates = true := by
  rw [isAggregate_node]
  exact e.iff_exists_reaches Node.isAggregate_iff

theorem Frame.aggregates_node (f : Frame) (a b : Expr) :
    (f.node a).aggregates = (f.node b).aggregates := by
  cases f with
  | operand s hole => cases s <;> rfl
  | _ => rfl

theorem Frame.hidesParts_node (f : Frame) (a b : Expr) :
    (f.node a).hidesParts = (f.node b).hidesParts := by
  cases f with
  | operand s hole => cases s <;> rfl
  | _ => rfl

/-- What is asked of a node with a hole is what fills the hole, and the rest, which is the same for
all that fills it. -/
theorem Frame.isAggregate_node_mono (f : Frame) {a b : Expr}
    (h : a.isAggregate = true → b.isAggregate = true) (ha : (f.node a).isAggregate = true) :
    (f.node b).isAggregate = true := by
  cases hc : (f.node b).hidesParts with
  | true =>
    rw [Node.isAggregate_iff, f.hidesParts_node a b, hc, f.aggregates_node a b] at ha
    rcases ha with ho | ⟨hf, -⟩
    · exact (Node.isAggregate_iff _).2 (.inl ho)
    · cases hf
  | false =>
    obtain ⟨before, after, hp⟩ := f.exists_parts
    rw [Node.isAggregate_eq (f.hidesParts_node a b ▸ hc), f.aggregates_node a b, hp] at ha
    rw [Node.isAggregate_eq hc, hp]
    simp only [List.any_append, List.any_cons, Bool.or_eq_true] at ha ⊢
    exact ha.imp_right (.imp_right (.imp_left h))

theorem Frame.isAggregate_node (f : Frame) {b : Expr} (h : b.isAggregate = true)
    (hc : (f.node b).hidesParts = false) : (f.node b).isAggregate = true :=
  (Node.isAggregate_iff _).2 (.inr ⟨hc, b, f.mem_parts_node b, b.isAggregate_node ▸ h⟩)

namespace Layer

theorem isAggregate_fillAll_mono (ls : List Layer) {a b : Expr}
    (h : a.isAggregate = true → b.isAggregate = true) (ha : (fillAll ls a).isAggregate = true) :
    (fillAll ls b).isAggregate = true := by
  induction ls with
  | nil => exact h ha
  | cons l r ih =>
    rw [Expr.isAggregate_node] at ha ⊢
    exact l.frame.isAggregate_node_mono ih ha

theorem isAggregate_fillAll {ls : List Layer} {a b : Expr} (h : b.isAggregate = true)
    (hl : ∀ l ∈ ls, (l.frame.node a).hidesParts = false) : (fillAll ls b).isAggregate = true := by
  induction ls with
  | nil => exact h
  | cons l r ih =>
    obtain ⟨hc, hr⟩ := List.forall_mem_cons.1 hl
    rw [Expr.isAggregate_node]
    exact l.frame.isAggregate_node (ih hr) (l.frame.hidesParts_node a (fillAll r b) ▸ hc)

end Layer

/-- An expression aggregates exactly if one comes from its root to a function that does, through no
call and no constant for a column. Let an expression that aggregates be put in the place of any
part, at any depth. If the whole did aggregate, it still does; and if the part is in no call and in
no constant, the whole does now. -/
theorem isAggregate_reachable :
    (∀ e : Expr,
      e.isAggregate = true ↔ ∃ x, e.Reaches Node.hidesParts x ∧ x.node.aggregates = true) ∧
    (∀ e a : Expr, a.Below e ↔ ∃ (l : Layer) (ls : List Layer), Layer.fillAll (l :: ls) a = e) ∧
    ∀ (ls : List Layer) (a b : Expr), b.isAggregate = true →
      ((Layer.fillAll ls a).isAggregate = true → (Layer.fillAll ls b).isAggregate = true) ∧
      ((∀ l ∈ ls, (l.frame.node a).hidesParts = false) →
        (Layer.fillAll ls b).isAggregate = true) := by
  refine ⟨Expr.isAggregate_iff_reaches, fun e a => Expr.below_iff, fun ls a b hb => ⟨?_, ?_⟩⟩
  · exact Layer.isAggregate_fillAll_mono ls fun _ => hb
  · exact Layer.isAggregate_fillAll hb

/-- a sum in a call, which is not asked for it, and a count beside the call -/
theorem isAggregate_reachable_call :
    let column : Expr := .mk [0] [] (.column ⟨none, "A", .integer⟩)
    let sum : Expr := .mk [1] [] (.wrap column "sum(" ")" none true none)
    let count : Expr := .mk [2] [] (.wrap column "count(" ")" none true (some .integer))
    let call : Expr := .mk [3] [] (.call "f(" sum ")" none)
    let l : Layer := ⟨[4], [], .operand (.arithRight call .plus) (.item [] .here [])⟩
    count.isAggregate = true ∧ (Layer.fillAll [l] column).isAggregate = false ∧
      (Layer.fillAll [l] count).isAggregate = true := by
  intro column sum count call l
  have hc : count.isAggregate = true := rfl
  have hl : ∀ m ∈ [l], (m.frame.node column).hidesParts = false := by
    intro m hm
    rw [List.mem_singleton.1 hm]
    rfl
  exact ⟨hc, rfl, (isAggregate_reachable.2.2 [l] column count hc).2 hl⟩

end ColumnSql
