import ColumnSql.Proofs.Expr.Built
import ColumnSql.Proofs.Lexical.Dialect

/-! The SQL of an expression is balanced if that of its parts is, so that of an expression made
without SQL of the caller is well formed. -/

namespace ColumnSql

open Lexical

namespace Lexical

def BalancedNode (q : Quotes) (t : Target) (n : Node) : Prop := ∀ ctx, Balanced q (n.sql t ctx)

/-- The SQL of the operand is balanced if its separator is. -/
def BalancedOperand (q : Quotes) (t : Target) (v : Operand) : Prop :=
  ∀ type separator ctx, Balanced q separator → Balanced q (v.sql type separator t ctx)

section

variable {q : Quotes} {t : Target} {e : Expr} {v : Operand}

theorem BalancedNode.expr (h : BalancedNode q t e.node) (ctx : Context) :
    Balanced q (e.sql t ctx) := by
  rw [e.sql_node]
  exact h ctx

theorem BalancedOperand.textFor (h : BalancedOperand q t v) (ctx : Context) (type : DataType) :
    Balanced q (v.textFor t ctx type) := h type ", " ctx (.ofPlain (by decide))

theorem BalancedNode.parenthesis (he : BalancedNode q t e.node) {place : Place} :
    BalancedNode q t (e.parenthesis place).node := by
  intro ctx
  change Balanced q ((Node.wrap e "(" ")" e.updateColumn false none).sql t ctx)
  rw [Node.sql_wrap]
  have := ((Fills.chars ['(']).append (.part (he.expr ctx.inner) (.chars [')']))).balanced
    (by decide)
  simpa [String.ofList_append, String.append_assoc] using this

theorem BalancedNode.arith (he : BalancedNode q t e.node) (op : Operator)
    (hv : BalancedOperand q t v) : BalancedNode q t (.arith e op v) := by
  intro ctx
  have hop : Balanced q op.symbol := .ofPlain (by cases op <;> decide)
  rw [Node.sql_arith]
  exact ((he.expr _).append hop).append (hv _ _ _ hop)

namespace BalancedOperand

theorem ofNode (he : BalancedNode q t e.node) : BalancedOperand q t (.expr e) := by
  intro type separator ctx _
  rw [Operand.sql_expr]
  exact he.expr ctx

theorem node (he : BalancedOperand q t (.expr e)) : BalancedNode q t e.node := by
  intro ctx
  have := he .unknown "" ctx .empty
  rwa [Operand.sql_expr, e.sql_node] at this

theorem constant {c : Value} (hc : BalancedOperand q t (.value c)) (type : DataType) :
    BalancedNode q t (.constant c type) := by
  intro ctx
  have := hc type "" ctx .empty
  rwa [Operand.sql_value, ← Node.sql_constant t ctx] at this

theorem list {items : List Operand} (hi : ∀ v ∈ items, BalancedOperand q t v) :
    BalancedOperand q t (.list items) := by
  intro type separator ctx hs
  rw [Operand.sql_list]
  refine .intercalate hs fun s hm => ?_
  obtain ⟨v, hv, rfl⟩ := List.mem_map.1 hm
  exact hi v hv type separator ctx hs

theorem front (hv : BalancedOperand q t v) {type : DataType} {place : Place} {r : Expr}
    (hr : Expr.front v type place = .ok r) : BalancedNode q t r.node := by
  rcases Expr.exists_of_front hr with rfl | ⟨c, type, rfl, rfl⟩
  · exact hv.node
  · exact hv.constant type

end BalancedOperand

end

namespace Safe

variable {q : Quotes} {t : Target} {e : Expr} {v : Operand} (h : Safe q t)

include h

theorem function {p : Phrase} (hp : p.takesOperand = true) :
    accepts (functionTokens (t.phrase p).toList) = true :=
  (acceptsTemplate_function hp _).symm.trans (h.phrase p)

theorem column {c : Column} (hn : HasNoQuotes c.name) (ht : ∀ table ∈ c.table, HasNoQuotes table) :
    BalancedNode q t (.column c) := by
  intro ctx
  rw [Node.sql_column]
  unfold Column.sql
  cases ctx.has .fullName with
  | false => exact h.name _ hn
  | true =>
    cases hc : c.table with
    | none => exact h.name _ hn
    | some table =>
      have hd : Balanced q "." := .ofPlain (by decide)
      exact ((h.name table (ht table hc)).append hd).append (h.name _ hn)

theorem concat (he : BalancedNode q t e.node) (hv : BalancedOperand q t v) :
    BalancedNode q t (.concat e v) := by
  intro ctx
  rw [Node.sql_concat]
  exact .concatenated (h.phrase .concatExpr) (he.expr _) fun _ hs => hv _ _ _ hs

theorem concatAll (he : BalancedNode q t e.node) (separator : Option String)
    {others : List Expr} (ho : ∀ x ∈ others, BalancedNode q t x.node) :
    BalancedNode q t (.concatAll e separator others) := by
  intro ctx
  rw [Node.sql_concatAll]
  refine .concatenatedAll (h.phrase .concat) (he.expr _) fun connector hc => .join fun s hs => ?_
  obtain ⟨x, hx, rfl⟩ := List.mem_map.1 hs
  refine .append (hc.append ?_) ((ho x hx).expr _)
  cases separator with
  | none => exact .empty
  | some s => exact (h.literal (.text s) .varchar rfl).append hc

theorem argument {params : List (DataType → String)}
    (hp : ∀ f ∈ params, ∀ type, Balanced q (f type)) (type : DataType)
    (p : Template.Placeholder) : Balanced q (t.argument params type p) := by
  unfold Target.argument
  split
  next f hf =>
    obtain ⟨i, _, hi⟩ := Option.bind_eq_some_iff.1 hf
    exact hp f (List.mem_of_getElem? hi) _
  next => exact h.phrase.balanced fun _ => rfl

theorem functionOf (he : BalancedNode q t e.node) {params : List Operand}
    (hp : ∀ v ∈ params, BalancedOperand q t v) {r : Expr} (hr : e.IsFunction params r) :
    BalancedNode q t r.node := by
  obtain ⟨p, type, update, dataType, place, ho, rfl⟩ := hr
  intro ctx
  change Balanced q ((Node.phrase e p params type update dataType).sql t ctx)
  rw [Node.sql_phrase]
  refine .filled (h.function ho) (h.argument (fun f hf => ?_) type) (he.expr _)
  obtain ⟨v, hv, rfl⟩ := List.mem_map.1 hf
  exact (hp v hv).textFor _

theorem convert (he : BalancedNode q t e.node) (dest : DataType) :
    BalancedNode q t (.convert e dest none) := by
  intro ctx
  rw [Node.sql_convert]
  obtain ⟨s, hs, ha⟩ := h.conversion dest e.dataType
  rw [hs]
  exact .filled (by rwa [String.toList_ofList]) (h.argument (by simp) .unknown) (he.expr _)

theorem branch {b : Branch} (hk : BalancedOperand q t b.key) (hr : BalancedOperand q t b.result)
    (k type : DataType) (ctx : Context) : Balanced q (b.sql k type t ctx) := by
  refine .append (h.phrase.balanced fun _ => rfl) (.substitute (fun p => ?_) (h.phrase .decodePart))
  split
  · exact hk.textFor ctx k
  split
  · exact hr.textFor ctx type
  · exact .empty

theorem decode (he : BalancedNode q t e.node) {branches : List Branch}
    (hb : ∀ b ∈ branches, BalancedOperand q t b.key ∧ BalancedOperand q t b.result)
    {otherwise : Option Operand} (ho : ∀ v ∈ otherwise, BalancedOperand q t v) (type : DataType) :
    BalancedNode q t (.decode e branches otherwise type) := by
  intro ctx
  have hc : Balanced q
      (Branch.allSql branches otherwise e.dataType type t ctx.inner) := by
    refine .append (.join fun s hs => ?_) ?_
    · obtain ⟨b, hm, rfl⟩ := List.mem_map.1 hs
      exact h.branch (hb b hm).1 (hb b hm).2 _ _ _
    · cases otherwise with
      | none => exact .empty
      | some v =>
        exact .append (h.phrase.balanced fun _ => rfl)
          (.substitute (fun _ => (ho v rfl).textFor _ _) (h.phrase .decodeElse))
  rw [Node.sql_decode]
  refine .filled (h.function rfl) (h.argument (fun f hf type => ?_) .unknown) (he.expr _)
  rw [List.mem_singleton.1 hf, h.raw]
  exact hc

theorem named (he : BalancedNode q t e.node) (name : String) :
    BalancedNode q t (.named e name) := by
  intro ctx
  rw [Node.sql_named]
  split
  · exact ((he.expr _).append (h.phrase.balanced fun _ => rfl)).append (h.identifier name)
  · exact he.expr _

theorem value {v : Value} (hv : v.isRaw = false) : BalancedOperand q t (.value v) := by
  intro type separator ctx _
  rw [Operand.sql_value]
  exact h.literal v type hv

theorem constantFor {v : Value} (hv : v.isRaw = false) (c : Expr) :
    BalancedNode q t (.constantFor c v) := by
  intro ctx
  rw [Node.sql_constantFor]
  exact h.literal v c.dataType hv

/-- The star is raw SQL, though not of the caller. -/
theorem countAll (place : Place) : BalancedNode q t (Expr.countAll place).node := by
  have hs : BalancedNode q t (Expr.ofNode (.constant (.raw "*") .unknown) place.part).node := by
    intro ctx
    change Balanced q ((Node.constant (.raw "*") .unknown).sql t ctx)
    rw [Node.sql_constant, h.raw]
    exact .ofPlain (by decide)
  exact h.functionOf hs (List.forall_mem_nil _) ⟨.count, .unknown, none, _, place, rfl, rfl⟩

/-- The SQL is balanced, by induction on how the operand is made. -/
theorem built (hv : Built v) : BalancedOperand q t v := by
  induction hv with
  | value hv => exact h.value hv
  | list _ ih => exact .list ih
  | column place hn ht => exact .ofNode (h.column hn ht)
  | constant hv hr =>
    rw [Expr.eq_of_constant hr]
    exact .ofNode ((h.value hv).constant _)
  | constantFor hv hr =>
    rw [Expr.eq_of_constantFor hr]
    exact .ofNode (h.constantFor hv _)
  | countAll place => exact .ofNode (h.countAll place)
  | operation hf _ _ hr he hv =>
    obtain ⟨op, w, hw, rfl⟩ := Expr.exists_arith_of_mem hf hr
    refine .ofNode (he.node.arith op ?_)
    rcases hw with rfl | hw
    · exact hv
    · obtain ⟨n, -, -, -, rfl⟩ := Expr.negated?_eq_some hw
      exact h.value rfl
  | append place _ _ he hv => exact .ofNode (h.concat he.node hv)
  | prepend _ _ hr he hv =>
    obtain ⟨left, hl, rfl | rfl⟩ := Expr.exists_of_prepend hr
    · exact .ofNode (h.concat (hv.front hl) he)
    · exact .ofNode ((hv.front hl).arith .plus he)
  | concat place _ _ he ho => exact .ofNode (h.concatAll he.node none fun x hx => (ho x hx).node)
  | concatSeparated separator place _ _ he ho =>
    exact .ofNode (h.concatAll he.node (some separator) fun x hx => (ho x hx).node)
  | parenthesis place _ he => exact .ofNode he.node.parenthesis
  | unary place hf _ he =>
    exact .ofNode (h.functionOf he.node (List.forall_mem_nil _) (.of_mem_unary hf _ place))
  | withOperand hf _ _ hr he hv =>
    exact .ofNode (h.functionOf he.node (by simpa using hv) (.of_mem_operand hf hr))
  | withOperands hf _ _ _ hr he hv hw =>
    exact .ofNode (h.functionOf he.node (by simpa using ⟨hv, hw⟩) (.of_mem_twoOperand hf hr))
  | withNumber n place hf _ he =>
    have hn : BalancedOperand q t (.ofInt n) := h.value rfl
    exact .ofNode (h.functionOf he.node (by simpa using hn) (.of_mem_number hf _ n place))
  | substringWithLength start count place _ he =>
    have hs : BalancedOperand q t (.ofInt start) := h.value rfl
    have hc : BalancedOperand q t (.ofInt count) := h.value rfl
    refine .ofNode (h.functionOf he.node ?_ ⟨.substringLength, _, _, _, place, rfl, rfl⟩)
    simpa using ⟨hs, hc⟩
  | escape c place _ he =>
    have hc : BalancedOperand q t (.ofText (String.ofList [c])) := h.value rfl
    refine .ofNode (h.functionOf he.node ?_ ⟨.escape, _, _, _, place, rfl, rfl⟩)
    simpa using hc
  | format pattern place _ he =>
    have hp : BalancedOperand q t (.ofText pattern) := h.value rfl
    refine .ofNode (h.functionOf he.node ?_ ⟨.format, _, _, _, place, rfl, rfl⟩)
    simpa using hp
  | convertTo dest place _ he => exact .ofNode (h.convert he.node dest)
  | decode _ _ _ _ hr he hk hx ho =>
    obtain ⟨branches, hb, rfl⟩ := Expr.exists_of_decode hr
    refine .ofNode (h.decode he.node (fun b hm => ?_) ho _)
    obtain ⟨k, hkm, hk'⟩ := List.mem_map.1 (hb b hm).1
    obtain ⟨x, hxm, hx'⟩ := List.mem_map.1 (hb b hm).2
    exact ⟨hk' ▸ hk k hkm, hx' ▸ hx x hxm⟩
  | named name place _ he => exact .ofNode (h.named he.node name)
  | withAttribute key value _ he => exact .ofNode he.node

end Safe

end Lexical

/-- The SQL of an expression that is made without SQL of the caller, from names without quotes, is
well formed in each built-in dialect: the scan ends outside of all quotes, with all parentheses
closed and none closed that was not open. -/
theorem sql_wellFormed (b : Builtin) {e : Expr} (h : Built (.expr e)) (ctx : Context) :
    Lexical.wellFormed b.quotes (e.sql ⟨some b.dialect⟩ ctx) = true := by
  have he : BalancedNode b.quotes ⟨some b.dialect⟩ e.node := ((safe_builtin b).built h).node
  exact (he.expr ctx).wellFormed

theorem sql_wellFormed_named :
    Built (.expr (((Expr.column ⟨some "my table", "order", .varchar⟩ [0]).append
      (.list [.ofText "it's (", .value .null]) [1]).named "a]b" [2])) ∧
    Lexical.wellFormed Builtin.sqlServer.quotes
      ((((Expr.column ⟨some "my table", "order", .varchar⟩ [0]).append
        (.list [.ofText "it's (", .value .null]) [1]).named "a]b" [2]).sql
          ⟨some Builtin.sqlServer.dialect⟩ (.set .fullName .aliases)) = true := by
  have hv : ∀ v ∈ [Operand.ofText "it's (", .value .null], Built v :=
    List.forall_mem_cons.2 ⟨.value rfl, List.forall_mem_singleton.2 (.value rfl)⟩
  have hc : Built (.expr (.column ⟨some "my table", "order", .varchar⟩ [0])) :=
    .column [0] (by decide) (by decide)
  have h := Built.named "a]b" [2] (.append [1] hc (.list hv))
  exact ⟨h, sql_wellFormed .sqlServer h _⟩

end ColumnSql
