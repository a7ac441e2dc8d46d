import ColumnSql.Proofs.Expr.Aggregate
import ColumnSql.Proofs.Expr.References

/-! Descriptions and the mark of an aggregate. What an expression is made of is described below it,
lists and their items too. The mark is that of the function or of what is below, where one looks
through lists: a list itself is never marked. -/

namespace ColumnSql

mutual

theorem Description.induction {P : Description → Prop}
    (step : ∀ d : Description, (∀ c ∈ d.children, P c) → P d) : ∀ d, P d
  | ⟨kind, name, function, t, aggregate, value, attributes, children⟩ =>
    step ⟨kind, name, function, t, aggregate, value, attributes, children⟩
      (Description.inductionAll step children)

theorem Description.inductionAll {P : Description → Prop}
    (step : ∀ d : Description, (∀ c ∈ d.children, P c) → P d) :
    ∀ (ds : List Description), ∀ c ∈ ds, P c
  | [], _, hc => absurd hc List.not_mem_nil
  | d :: r, c, hc =>
    (List.mem_cons.1 hc).elim (fun h => h ▸ Description.induction step d)
      (Description.inductionAll step r c)

end

mutual

/-- the description, or those of the items if it is that of a list, which may be in lists again -/
def Description.leaves : Description → List Description
  | ⟨kind, name, function, t, aggregate, value, attributes, children⟩ =>
    if kind = .list then Description.allLeaves children
    else [⟨kind, name, function, t, aggregate, value, attributes, children⟩]

def Description.allLeaves : List Description → List Description
  | [] => []
  | d :: r => d.leaves ++ Description.allLeaves r

end

theorem Description.allLeaves_eq (ds : List Description) : allLeaves ds = ds.flatMap leaves := by
  induction ds with
  | nil => rfl
  | cons d r ih => rw [allLeaves, ih, List.flatMap_cons]

theorem Description.leaves_eq (d : Description) :
    d.leaves = if d.kind = .list then d.children.flatMap leaves else [d] := by
  cases d
  rw [leaves, allLeaves_eq]

def Node.shown : Node → List Operand
  | .column _ | .constant .. | .constantFor .. => []
  | .arith e _ v | .concat e v => [.expr e, v]
  | .concatAll e _ others => (e :: others).map .expr
  | .wrap e _ _ _ _ _ => [.expr e]
  | .phrase e _ params _ _ _ => .expr e :: params
  | .convert e _ _ => [.expr e]
  | .call _ e _ _ => [.expr e]
  | .callTwo _ a _ b _ _ => [.expr a, .expr b]
  | .decode e branches otherwise _ =>
    .expr e :: (branches.flatMap fun b => [b.key, b.result]) ++ otherwise.toList
  | .named e _ => [.expr e]

/-- whether the node is SQL around operands, which is no aggregate whatever they are -/
def Node.isCall : Node → Bool
  | .call .. | .callTwo .. => true
  | _ => false

theorem Expr.describeAll_eq (es : List Expr) : describeAll es = es.map describe := by
  induction es with
  | nil => rfl
  | cons e r ih => rw [describeAll, ih, List.map_cons]

theorem Operand.describeAll_eq (vs : List Operand) : describeAll vs = vs.map describe := by
  induction vs with
  | nil => rfl
  | cons v r ih => rw [describeAll, ih, List.map_cons]

theorem Branch.describeAll_eq (bs : List Branch) :
    describeAll bs = (bs.flatMap fun b => [b.key, b.result]).map Operand.describe := by
  induction bs with
  | nil => rfl
  | cons b r ih =>
    cases b
    rw [describeAll, ih]
    rfl

namespace Node

theorem children_describe (n : Node) : n.describe.children = n.shown.map Operand.describe := by
  cases n with
  | decode e branches otherwise t =>
    cases otherwise <;>
      simp [describe, described, shown, Branch.describeAll_eq, Operand.describe]
  | _ =>
    simp [describe, described, shown, Expr.describeAll_eq, Operand.describeAll_eq,
      Operand.describe]

theorem kind_describe_ne_list (n : Node) : n.describe.kind ≠ .list := by
  cases n <;> simp [describe, described]

theorem kind_describe_eq_funcEx_iff (n : Node) : n.describe.kind = .funcEx ↔ n.isCall = true := by
  cases n <;> simp [describe, described, isCall]

theorem aggregate_describe (n : Node) : n.describe.aggregate = n.isAggregate := by
  cases n with
  | decode e branches otherwise t => cases otherwise <;> simp [describe, described]
  | _ => simp [describe, described, isAggregate]

/-- What is in a node is what is described below it, but for the column of a constant. -/
theorem parts_eq {n : Node} (h : n.isConstantFor = false) :
    n.parts = n.shown.flatMap Operand.exprs := by
  cases n with
  | constantFor => cases h
  | concatAll e separator others => simp [parts, shown, Operand.exprs, List.flatMap_map]
  | decode e branches otherwise t => simp [parts, shown, Operand.exprs, List.flatMap_assoc]
  | _ => simp [parts, shown, Operand.exprs]

theorem isAggregate_shown {n : Node} (h : n.isCall = false) :
    n.isAggregate = (n.aggregates || n.shown.any Operand.isAggregate) := by
  cases hc : n.isConstantFor with
  | true =>
    cases n with
    | constantFor => rfl
    | _ => cases hc
  | false =>
    have hp : n.hidesParts = false := by
      cases n with
      | constantFor => cases hc
      | call | callTwo => cases h
      | _ => rfl
    rw [isAggregate_eq hp, parts_eq hc, List.any_flatMap]
    simp only [← Operand.isAggregate_eq]

end Node

namespace Expr

variable (e : Expr)

theorem children_describe : e.describe.children = e.node.describe.children := by
  cases e
  rfl

theorem kind_describe : e.describe.kind = e.node.describe.kind := by
  cases e
  rfl

theorem aggregate_describe : e.describe.aggregate = e.isAggregate := by
  rw [e.isAggregate_node, ← Node.aggregate_describe]
  cases e
  rfl

end Expr

namespace Operand

def shown : Operand → List Operand
  | .expr e => e.node.shown
  | .value _ => []
  | .list items => items

/-- The description of the operand shows the other, at any depth. -/
def Shows : Operand → Operand → Prop := Relation.ReflTransGen fun v w => w ∈ v.shown

def aggregates : Operand → Bool
  | .expr e => e.node.aggregates
  | _ => false

theorem children_describe (v : Operand) : v.describe.children = v.shown.map describe := by
  cases v with
  | expr e => exact e.children_describe.trans e.node.children_describe
  | value v => rfl
  | list items => exact describeAll_eq items

theorem kind_describe_eq_list_iff {v : Operand} :
    v.describe.kind = .list ↔ ∃ items, v = .list items := by
  cases v with
  | expr e => simpa [describe, e.kind_describe] using e.node.kind_describe_ne_list
  | value | list => simp [describe]

theorem induction_shown {M : Operand → Prop} (step : ∀ v : Operand, (∀ w ∈ v.shown, M w) → M v)
    (v : Operand) : M v := by
  have h (d : Description) : ∀ v : Operand, v.describe = d → M v := by
    induction d using Description.induction with
    | step d ih =>
      rintro v rfl
      refine step v fun w hw => ih w.describe ?_ w rfl
      rw [v.children_describe]
      exact List.mem_map_of_mem hw
  exact h v.describe v rfl

theorem mem_walk_describe {v : Operand} {x : Description} :
    x ∈ v.describe.walk ↔ v.describe = x ∨ ∃ w ∈ v.shown, x ∈ w.describe.walk := by
  rw [Description.walk_eq, children_describe, List.flatMap_map, List.mem_cons, List.mem_flatMap,
    eq_comm]

/-- The descriptions below that of an operand are those of the operands that it shows. -/
theorem mem_walk_describe_iff {v : Operand} {x : Description} :
    x ∈ v.describe.walk ↔ ∃ w, v.Shows w ∧ w.describe = x := by
  constructor
  · induction v using induction_shown with
    | step v ih =>
      intro hx
      rcases mem_walk_describe.1 hx with rfl | ⟨u, hu, hx⟩
      · exact ⟨v, .refl, rfl⟩
      · obtain ⟨w, hw, he⟩ := ih u hu hx
        exact ⟨w, .head hu hw, he⟩
  · rintro ⟨w, hw, rfl⟩
    -- from the operand that is shown up to the one that shows it
    induction hw using Relation.ReflTransGen.head_induction_on with
    | refl => exact mem_walk_describe.2 (.inl rfl)
    | head hu _ ih => exact mem_walk_describe.2 (.inr ⟨_, hu, ih⟩)

mutual

theorem any_leaves_describe :
    ∀ v : Operand, v.describe.leaves.any Description.aggregate = v.isAggregate
  | .expr e => by
    have hk : e.describe.kind ≠ .list := e.kind_describe ▸ e.node.kind_describe_ne_list
    rw [describe, Description.leaves_eq, if_neg hk, List.any_cons, List.any_nil, Bool.or_false,
      e.aggregate_describe, isAggregate]
  | .value _ => rfl
  | .list items => any_allLeaves_describe items

theorem any_allLeaves_describe : ∀ vs : List Operand,
    (Description.allLeaves (describeAll vs)).any Description.aggregate = anyAggregate vs
  | [] => rfl
  | v :: r => by
    rw [describeAll, Description.allLeaves, List.any_append, any_leaves_describe v,
      any_allLeaves_describe r, anyAggregate]

end

theorem any_leaves_shown (v : Operand) :
    (v.describe.children.flatMap Description.leaves).any Description.aggregate =
      v.shown.any isAggregate := by
  rw [children_describe, List.flatMap_map, List.any_flatMap]
  simp only [any_leaves_describe]

/-- What is no call and no list is marked if it is a function that aggregates, or if something that
aggregates is shown. -/
theorem aggregate_describe {v : Operand} (hf : v.describe.kind ≠ .funcEx)
    (hl : v.describe.kind ≠ .list) :
    v.describe.aggregate = (v.aggregates || v.shown.any isAggregate) := by
  cases v with
  | expr e =>
    rw [describe, e.kind_describe, ne_eq, Node.kind_describe_eq_funcEx_iff] at hf
    rw [describe, e.aggregate_describe, e.isAggregate_node,
      Node.isAggregate_shown (by simpa using hf)]
    rfl
  | value v => rfl
  | list items => exact absurd rfl hl

theorem aggregate_describe_of_list {v : Operand} (h : v.describe.kind = .list) :
    v.describe.aggregate = false := by
  obtain ⟨items, rfl⟩ := kind_describe_eq_list_iff.1 h
  rfl

theorem anyAggregate_eq (vs : List Operand) : anyAggregate vs = vs.any isAggregate := by
  rw [anyAggregate_exprs, allExprs_eq, List.any_flatMap]
  simp only [← isAggregate_eq]

/-- no list that the operand shows has a marked item -/
def HasPlainLists (v : Operand) : Prop :=
  ∀ items, v.Shows (.list items) → ∀ w ∈ items, w.describe.aggregate = false

theorem HasPlainLists.of_shows {v w : Operand} (h : v.HasPlainLists) (hw : v.Shows w) :
    w.HasPlainLists := fun items hi => h items (hw.trans hi)

theorem HasPlainLists.aggregate_describe {v : Operand} (h : v.HasPlainLists) :
    v.describe.aggregate = v.isAggregate := by
  induction v using induction_shown with
  | step v ih =>
    cases v with
    | expr e => exact e.aggregate_describe
    | value v => rfl
    | list items =>
      have hi : items.any isAggregate = false := by
        rw [List.any_eq_false]
        intro w hw
        rw [← ih w hw (h.of_shows (.single hw)), h items .refl w hw]
        exact Bool.false_ne_true
      rw [isAggregate, anyAggregate_eq, hi]
      rfl

theorem hasPlainLists_iff {v : Operand} : v.HasPlainLists ↔
    ∀ x ∈ v.describe.walk, x.kind = .list → ∀ c ∈ x.children, c.aggregate = false := by
  constructor
  · intro h x hx hk c hc
    obtain ⟨w, hw, rfl⟩ := mem_walk_describe_iff.1 hx
    obtain ⟨items, rfl⟩ := kind_describe_eq_list_iff.1 hk
    rw [children_describe] at hc
    obtain ⟨u, hu, rfl⟩ := List.mem_map.1 hc
    exact h items hw u hu
  · intro h items hi w hw
    refine h (list items).describe (mem_walk_describe_iff.2 ⟨_, hi, rfl⟩) rfl w.describe ?_
    rw [children_describe]
    exact List.mem_map_of_mem hw

/-- The mark is that of the function or of what is described right below. -/
def HasMarkOfChildren (v : Operand) : Prop :=
  v.describe.aggregate = true ↔
    v.aggregates = true ∨ ∃ c ∈ v.describe.children, c.aggregate = true

theorem HasPlainLists.hasMarkOfChildren {v : Operand} (h : v.HasPlainLists)
    (hf : v.describe.kind ≠ .funcEx) : v.HasMarkOfChildren := by
  have hc : v.describe.children.any Description.aggregate = v.shown.any isAggregate := by
    rw [children_describe, List.any_map, Bool.eq_iff_iff, List.any_eq_true, List.any_eq_true]
    refine exists_congr fun w => and_congr_right fun hw => ?_
    rw [Function.comp_apply, (h.of_shows (.single hw)).aggregate_describe]
  have hm : v.describe.aggregate = (v.aggregates || v.shown.any isAggregate) := by
    by_cases hl : v.describe.kind = .list
    · obtain ⟨items, rfl⟩ := kind_describe_eq_list_iff.1 hl
      rw [h.aggregate_describe, isAggregate, anyAggregate_eq]
      rfl
    · exact Operand.aggregate_describe hf hl
  rw [HasMarkOfChildren, hm, ← hc, Bool.or_eq_true, List.any_eq_true]

theorem hasPlainLists_of_hasMarkOfChildren {v : Operand}
    (h : ∀ w, v.Shows w → w.describe.kind ≠ .funcEx → w.HasMarkOfChildren) :
    v.HasPlainLists := by
  intro items hi w hw
  have hl : (list items).describe.kind = .list := rfl
  have hm := (h _ hi (by rw [hl]; decide)).not.1
    (by rw [aggregate_describe_of_list hl]; exact Bool.false_ne_true)
  by_contra hn
  refine hm (.inr ⟨w.describe, ?_, by simpa using hn⟩)
  rw [children_describe]
  exact List.mem_map_of_mem hw

theorem aggregate_describe_iff {v : Operand} (hf : v.describe.kind ≠ .funcEx) :
    v.describe.aggregate = true ↔ v.describe.kind ≠ .list ∧
      (v.aggregates = true ∨
        ∃ c ∈ v.describe.children.flatMap Description.leaves, c.aggregate = true) := by
  by_cases hl : v.describe.kind = .list
  · simp [aggregate_describe_of_list hl, hl]
  · rw [aggregate_describe hf hl, ← any_leaves_shown, Bool.or_eq_true, List.any_eq_true]
    exact (and_iff_right hl).symm

end Operand

/-- What a description shows is an expression, what it is made of, at any depth, and the items of
lists. The root is marked exactly if the expression aggregates. Below it, what is no call is marked
exactly if it is no list, and is a function that aggregates or has a marked part, where the items of
lists are taken for parts. So each mark can be told from the function and from the marks right
below exactly if no list has a marked item. -/
theorem aggregates_described (e : Expr) :
    (∀ x, x ∈ e.describe.walk ↔ ∃ v, (Operand.expr e).Shows v ∧ v.describe = x) ∧
    e.describe.aggregate = e.isAggregate ∧
    (∀ v, (Operand.expr e).Shows v → v.describe.kind ≠ .funcEx →
      (v.describe.aggregate = true ↔ v.describe.kind ≠ .list ∧
        (v.aggregates = true ∨
          ∃ c ∈ v.describe.children.flatMap Description.leaves, c.aggregate = true))) ∧
    ((∀ v, (Operand.expr e).Shows v → v.describe.kind ≠ .funcEx → v.HasMarkOfChildren) ↔
      ∀ x ∈ e.describe.walk, x.kind = .list → ∀ c ∈ x.children, c.aggregate = false) := by
  have hd : (Operand.expr e).describe = e.describe := by rw [Operand.describe]
  refine ⟨fun x => ?_, e.aggregate_describe, fun v _ => Operand.aggregate_describe_iff, ?_⟩
  · rw [← hd]
    exact Operand.mem_walk_describe_iff
  · rw [← hd, ← Operand.hasPlainLists_iff]
    constructor
    · exact Operand.hasPlainLists_of_hasMarkOfChildren
    · exact fun h v hv hf => (h.of_shows hv).hasMarkOfChildren hf

/-- a sum in a list in a list: the sum is marked, and so is the arithmetic that looks through both
lists -/
theorem aggregates_described_list :
    let column : Expr := .mk [0] [] (.column ⟨none, "A", .integer⟩)
    let sum : Expr := .mk [1] [] (.phrase column .sum [] .unknown none none)
    let items : Operand := .list [.value (.int 1), .expr sum]
    let e : Expr := .mk [2] [] (.arith column .plus (.list [items]))
    (Operand.expr e).Shows (.expr sum) ∧ e.describe.aggregate = true ∧
      ¬ ∀ v, (Operand.expr e).Shows v → v.describe.kind ≠ .funcEx → v.HasMarkOfChildren := by
  intro column sum items e
  obtain ⟨hw, hr, hm, hl⟩ := aggregates_described e
  have hi : (Operand.expr e).Shows items :=
    .head (b := .list [items]) (List.mem_cons_of_mem _ (List.mem_singleton.2 rfl))
      (.single (List.mem_singleton.2 rfl))
  have hs : (Operand.expr e).Shows (.expr sum) :=
    hi.tail (List.mem_cons_of_mem _ (List.mem_singleton.2 rfl))
  have ha : (Operand.expr sum).describe.aggregate = true :=
    (hm _ hs (by decide)).2 ⟨by decide, .inl rfl⟩
  refine ⟨hs, hr.trans rfl, fun h => ?_⟩
  have := hl.1 h _ ((hw _).2 ⟨items, hi, rfl⟩) rfl (Operand.expr sum).describe
    (List.mem_cons_of_mem _ (List.mem_singleton.2 rfl))
  rw [ha] at this
  cases this

/-- A list with a sum in it is described without a mark. -/
theorem list_described_unmarked :
    let column : Expr := .mk [0] [] (.column ⟨none, "A", .integer⟩)
    let sum : Expr := .mk [1] [] (.phrase column .sum [] .unknown none none)
    let e : Expr := .mk [2] [] (.arith column .plus (.list [.expr sum]))
    ¬ ∀ v, (Operand.expr e).Shows v → v.describe.kind ≠ .funcEx → v.HasMarkOfChildren := by
  intro column sum e h
  have hs : (Operand.expr e).Shows (.list [.expr sum]) :=
    .single (List.mem_cons_of_mem _ (List.mem_singleton.2 rfl))
  have hm : (Operand.list [.expr sum]).describe.aggregate = true :=
    (h _ hs (by decide)).2 (.inr ⟨sum.describe, List.mem_singleton.2 rfl, rfl⟩)
  cases hm

end ColumnSql
