import ColumnSql.Proofs.Expr.Frame
import Mathlib.Logic.Relation

/-! What stands below the root of an expression, and that the SQL of the whole is composed of the
SQL of what stands there. The expressions in a node are listed, and each of them is in the hole of a
frame, so that whatever is below the root is in the hole that some layers lead to. Of what fills a
hole, nothing but the type and the SQL shows in the whole. -/

namespace ColumnSql

mutual

def Operand.exprs : Operand → List Expr
  | .expr e => [e]
  | .value _ => []
  | .list items => Operand.allExprs items

def Operand.allExprs : List Operand → List Expr
  | [] => []
  | v :: r => v.exprs ++ Operand.allExprs r

end

def Node.parts : Node → List Expr
  | .column _ | .constant .. => []
  | .constantFor c _ => [c]
  | .arith e _ v => e :: v.exprs
  | .concat e v => e :: v.exprs
  | .concatAll e _ others => e :: others
  | .wrap e _ _ _ _ _ => [e]
  | .phrase e _ params _ _ _ => e :: params.flatMap Operand.exprs
  | .convert e _ _ => [e]
  | .call _ e _ _ => [e]
  | .callTwo _ a _ b _ _ => [a, b]
  | .decode e branches otherwise _ =>
    e :: (branches.flatMap fun b => b.key.exprs ++ b.result.exprs) ++
      otherwise.toList.flatMap Operand.exprs
  | .named e _ => [e]

/-- `x` stands below the root of `e`, at any depth. -/
def Expr.Below : Expr → Expr → Prop := Relation.TransGen fun x e => x ∈ e.node.parts

theorem Operand.allExprs_eq (vs : List Operand) : allExprs vs = vs.flatMap exprs := by
  induction vs with
  | nil => rfl
  | cons v r ih => rw [allExprs, ih, List.flatMap_cons]

theorem OperandHole.exists_exprs (h : OperandHole) :
    ∃ before after : List Expr, ∀ x, (h.fill (.expr x)).exprs = before ++ x :: after := by
  induction h with
  | here => exact ⟨[], [], fun x => rfl⟩
  | item before inside after ih =>
    obtain ⟨l, r, h⟩ := ih
    refine ⟨before.flatMap Operand.exprs ++ l, r ++ after.flatMap Operand.exprs, fun x => ?_⟩
    simp [fill, Operand.exprs, Operand.allExprs_eq, h]

theorem Slot.exists_parts (s : Slot) :
    ∃ before after : List Expr, ∀ v, (s.node v).parts = before ++ v.exprs ++ after := by
  let exprs (b : Branch) : List Expr := b.key.exprs ++ b.result.exprs
  cases s with
  | arithRight e op => exact ⟨[e], [], fun v => by simp [node, Node.parts]⟩
  | concatRight e => exact ⟨[e], [], fun v => by simp [node, Node.parts]⟩
  | param e p before after type update t =>
    exact ⟨e :: before.flatMap Operand.exprs, after.flatMap Operand.exprs,
      fun v => by simp [node, Node.parts]⟩
  | key e before result after otherwise t =>
    exact ⟨e :: before.flatMap exprs,
      result.exprs ++ after.flatMap exprs ++ otherwise.toList.flatMap Operand.exprs,
      fun v => by simp [node, Node.parts, exprs, Branch.key, Branch.result]⟩
  | result e before key after otherwise t =>
    exact ⟨e :: before.flatMap exprs ++ key.exprs,
      after.flatMap exprs ++ otherwise.toList.flatMap Operand.exprs,
      fun v => by simp [node, Node.parts, exprs, Branch.key, Branch.result]⟩
  | fallback e branches t =>
    exact ⟨e :: branches.flatMap exprs, [], fun v => by simp [node, Node.parts, exprs]⟩

/-- What is in the hole is one of the parts, and the others stay as they are. -/
theorem Frame.exists_parts (f : Frame) :
    ∃ before after : List Expr, ∀ x, (f.node x).parts = before ++ x :: after := by
  cases f with
  | concatOther first separator before after =>
    exact ⟨first :: before, after, fun x => rfl⟩
  | callSecond before first between after update => exact ⟨[first], [], fun x => rfl⟩
  | operand s hole =>
    obtain ⟨l, r, hs⟩ := s.exists_parts
    obtain ⟨before, after, hh⟩ := hole.exists_exprs
    refine ⟨l ++ before, after ++ r, fun x => ?_⟩
    simp [node, hs, hh]
  | _ => exact ⟨[], _, fun x => rfl⟩

theorem Frame.mem_parts_node (f : Frame) (x : Expr) : x ∈ (f.node x).parts := by
  obtain ⟨before, after, h⟩ := f.exists_parts
  simp [h]

mutual

theorem Operand.exists_hole : ∀ (v : Operand), ∀ x ∈ v.exprs,
    ∃ h : OperandHole, h.fill (.expr x) = v
  | .expr e, x, hx => ⟨.here, by rw [List.mem_singleton.1 hx, OperandHole.fill]⟩
  | .value _, _, hx => absurd hx List.not_mem_nil
  | .list items, x, hx => by
    obtain ⟨before, h, after, rfl⟩ := Operand.exists_item items x hx
    exact ⟨.item before h after, rfl⟩

theorem Operand.exists_item : ∀ (vs : List Operand), ∀ x ∈ Operand.allExprs vs,
    ∃ (before : List Operand) (h : OperandHole) (after : List Operand),
      before ++ h.fill (.expr x) :: after = vs
  | [], _, hx => absurd hx List.not_mem_nil
  | v :: r, x, hx => by
    rcases List.mem_append.1 hx with hv | hr
    · obtain ⟨h, rfl⟩ := Operand.exists_hole v x hv
      exact ⟨[], h, r, rfl⟩
    · obtain ⟨before, h, after, rfl⟩ := Operand.exists_item r x hr
      exact ⟨v :: before, h, after, rfl⟩

end

theorem Node.exists_frame {n : Node} {x : Expr} (hx : x ∈ n.parts) : ∃ f : Frame, f.node x = n := by
  cases n with
  | column c => exact absurd hx List.not_mem_nil
  | constant v type => exact absurd hx List.not_mem_nil
  | constantFor c v =>
    obtain rfl := List.mem_singleton.1 hx
    exact ⟨.column v, rfl⟩
  | arith e op v =>
    rcases List.mem_cons.1 hx with rfl | hv
    · exact ⟨.arithLeft op v, rfl⟩
    · obtain ⟨h, rfl⟩ := v.exists_hole x hv
      exact ⟨.operand (.arithRight e op) h, rfl⟩
  | concat e v =>
    rcases List.mem_cons.1 hx with rfl | hv
    · exact ⟨.concatLeft v, rfl⟩
    · obtain ⟨h, rfl⟩ := v.exists_hole x hv
      exact ⟨.operand (.concatRight e) h, rfl⟩
  | concatAll e separator others =>
    rcases List.mem_cons.1 hx with rfl | ho
    · exact ⟨.concatFirst separator others, rfl⟩
    · obtain ⟨before, after, rfl⟩ := List.append_of_mem ho
      exact ⟨.concatOther e separator before after, rfl⟩
  | wrap e before after update aggregate type =>
    obtain rfl := List.mem_singleton.1 hx
    exact ⟨.wrap before after update aggregate type, rfl⟩
  | phrase e p params type update dataType =>
    rcases List.mem_cons.1 hx with rfl | hp
    · exact ⟨.phrase p params type update dataType, rfl⟩
    · obtain ⟨v, hv, hxv⟩ := List.mem_flatMap.1 hp
      obtain ⟨before, after, rfl⟩ := List.append_of_mem hv
      obtain ⟨h, rfl⟩ := v.exists_hole x hxv
      exact ⟨.operand (.param e p before after type update dataType) h, rfl⟩
  | convert e dest format =>
    obtain rfl := List.mem_singleton.1 hx
    exact ⟨.convert dest format, rfl⟩
  | call before e after update =>
    obtain rfl := List.mem_singleton.1 hx
    exact ⟨.call before after update, rfl⟩
  | callTwo before a between b after update =>
    rcases List.mem_cons.1 hx with rfl | hb
    · exact ⟨.callFirst before between b after update, rfl⟩
    · obtain rfl := List.mem_singleton.1 hb
      exact ⟨.callSecond before a between after update, rfl⟩
  | decode e branches otherwise type =>
    rcases List.mem_append.1 hx with hc | ho
    · rcases List.mem_cons.1 hc with rfl | hb
      · exact ⟨.condition branches otherwise type, rfl⟩
      · obtain ⟨⟨k, r⟩, hkr, hxb⟩ := List.mem_flatMap.1 hb
        obtain ⟨before, after, rfl⟩ := List.append_of_mem hkr
        rcases List.mem_append.1 hxb with hk | hr
        · obtain ⟨h, rfl⟩ := k.exists_hole x hk
          exact ⟨.operand (.key e before r after otherwise type) h, rfl⟩
        · obtain ⟨h, rfl⟩ := r.exists_hole x hr
          exact ⟨.operand (.result e before k after otherwise type) h, rfl⟩
    · obtain ⟨v, hv, hxv⟩ := List.mem_flatMap.1 ho
      obtain rfl := Option.mem_toList.1 hv
      obtain ⟨h, rfl⟩ := v.exists_hole x hxv
      exact ⟨.operand (.fallback e branches type) h, rfl⟩
  | named e name =>
    obtain rfl := List.mem_singleton.1 hx
    exact ⟨.named name, rfl⟩

theorem Expr.exists_layer {e x : Expr} (hx : x ∈ e.node.parts) : ∃ l : Layer, l.fill x = e := by
  rcases e with ⟨place, attributes, n⟩
  obtain ⟨f, rfl⟩ := Node.exists_frame hx
  exact ⟨⟨place, attributes, f⟩, rfl⟩

/-- Layers, of which there is at least one, lead to all that is below the root and to nothing
else. -/
theorem Expr.below_iff {e x : Expr} :
    Below x e ↔ ∃ (l : Layer) (ls : List Layer), Layer.fillAll (l :: ls) x = e := by
  constructor
  · intro h
    -- from `x` outwards: each step down to a part is one more layer around
    induction h with
    | single hx =>
      obtain ⟨l, rfl⟩ := exists_layer hx
      exact ⟨l, [], rfl⟩
    | tail _ hx ih =>
      obtain ⟨l, rfl⟩ := exists_layer hx
      obtain ⟨m, ls, rfl⟩ := ih
      exact ⟨l, m :: ls, rfl⟩
  · rintro ⟨l, ls, rfl⟩
    induction ls generalizing l with
    | nil => exact .single (l.frame.mem_parts_node x)
    | cons m r ih => exact (ih m).tail (l.frame.mem_parts_node _)

/-- What is below a root is what stands in the hole of some layers. Let two expressions have the
same type and, without aliases, the same SQL. Then the one can stand for the other in each such
hole: the whole has the same type and the same SQL, whatever else tells the two apart. -/
theorem sql_compositional {a b : Expr} {t : Target} {ctx : Context} (hd : a.dataType = b.dataType)
    (hs : a.sql t (ctx.clear .aliases) = b.sql t (ctx.clear .aliases)) :
    (∀ e, a.Below e ↔ ∃ (l : Layer) (ls : List Layer), Layer.fillAll (l :: ls) a = e) ∧
    ∀ (l : Layer) (ls : List Layer),
      (Layer.fillAll (l :: ls) a).dataType = (Layer.fillAll (l :: ls) b).dataType ∧
      (Layer.fillAll (l :: ls) a).sql t ctx = (Layer.fillAll (l :: ls) b).sql t ctx := by
  refine ⟨fun e => Expr.below_iff, fun l ls => ⟨?_, ?_⟩⟩
  · exact Layer.dataType_fillAll_congr (l :: ls) hd
  · exact Layer.sql_fillAll_congr l ls hd hs

/-- a column, and its SQL as a constant in a call with an attribute and another name -/
theorem sql_compositional_column :
    let a : Expr := .mk [0] [] (.column ⟨some "t", "A", .integer⟩)
    let sql : Expr := .mk [1] [] (.constant (.raw "A") .integer)
    let b : Expr := .mk [2] [("title", "x")] (.named (.mk [3] [] (.call "" sql "" none)) "N")
    let t : Target := ⟨some Builtin.oracle.dialect⟩
    let ctx : Context := ⟨8⟩
    (a.dataType = b.dataType ∧ a.sql t (ctx.clear .aliases) = b.sql t (ctx.clear .aliases)) ∧
    ∀ (l : Layer) (ls : List Layer),
      (Layer.fillAll (l :: ls) a).dataType = (Layer.fillAll (l :: ls) b).dataType ∧
      (Layer.fillAll (l :: ls) a).sql t ctx = (Layer.fillAll (l :: ls) b).sql t ctx := by
  intro a sql b t ctx
  have hd : a.dataType = b.dataType := rfl
  have hs : a.sql t (ctx.clear .aliases) = b.sql t (ctx.clear .aliases) := by decide +kernel
  exact ⟨⟨hd, hs⟩, (sql_compositional hd hs).2⟩

end ColumnSql
