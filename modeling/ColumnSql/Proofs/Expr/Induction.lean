import ColumnSql.Expr.Basic

/-! Induction on expressions. What expressions are made of is nested in lists of expressions,
operands and branches; here one step is shown for each kind of node and of operand, and the parts
in a list are dealt with by membership. -/

namespace ColumnSql

/-- The steps of an induction that shows `N` of all nodes and `V` of all operands. -/
structure Induction (N : Node → Prop) (V : Operand → Prop) : Prop where
  column : ∀ c, N (.column c)
  constant : ∀ v t, N (.constant v t)
  constantFor : ∀ c v, N c.node → N (.constantFor c v)
  arith : ∀ e op v, N e.node → V v → N (.arith e op v)
  concat : ∀ e v, N e.node → V v → N (.concat e v)
  concatAll : ∀ e separator others, N e.node → (∀ x ∈ others, N x.node) →
    N (.concatAll e separator others)
  wrap : ∀ e before after update aggregate t, N e.node →
    N (.wrap e before after update aggregate t)
  phrase : ∀ e p params type update t, N e.node → (∀ v ∈ params, V v) →
    N (.phrase e p params type update t)
  convert : ∀ e dest format, N e.node → N (.convert e dest format)
  call : ∀ before e after update, N e.node → N (.call before e after update)
  callTwo : ∀ before a between b after update, N a.node → N b.node →
    N (.callTwo before a between b after update)
  decode : ∀ e branches otherwise t, N e.node → (∀ b ∈ branches, V b.key ∧ V b.result) →
    (∀ v ∈ otherwise, V v) → N (.decode e branches otherwise t)
  named : ∀ e name, N e.node → N (.named e name)
  expr : ∀ e, N e.node → V (.expr e)
  value : ∀ v, V (.value v)
  list : ∀ items, (∀ v ∈ items, V v) → V (.list items)

namespace Induction

variable {N : Node → Prop} {V : Operand → Prop}

mutual

theorem ofExpr (h : Induction N V) : ∀ e : Expr, N e.node
  | .mk _ _ n => h.ofNode n

theorem ofNode (h : Induction N V) : ∀ n : Node, N n
  | .column c => h.column c
  | .constant v t => h.constant v t
  | .constantFor c v => h.constantFor c v (h.ofExpr c)
  | .arith e op v => h.arith e op v (h.ofExpr e) (h.ofOperand v)
  | .concat e v => h.concat e v (h.ofExpr e) (h.ofOperand v)
  | .concatAll e s others => h.concatAll e s others (h.ofExpr e) (h.ofExprs others)
  | .wrap e before after u a t => h.wrap e before after u a t (h.ofExpr e)
  | .phrase e p params type u t =>
    h.phrase e p params type u t (h.ofExpr e) (h.ofOperands params)
  | .convert e dest format => h.convert e dest format (h.ofExpr e)
  | .call before e after u => h.call before e after u (h.ofExpr e)
  | .callTwo before a between b after u =>
    h.callTwo before a between b after u (h.ofExpr a) (h.ofExpr b)
  | .decode e branches otherwise t =>
    h.decode e branches otherwise t (h.ofExpr e) (h.ofBranches branches) (h.ofOption otherwise)
  | .named e name => h.named e name (h.ofExpr e)

theorem ofOperand (h : Induction N V) : ∀ v : Operand, V v
  | .expr e => h.expr e (h.ofExpr e)
  | .value v => h.value v
  | .list items => h.list items (h.ofOperands items)

theorem ofExprs (h : Induction N V) : ∀ (es : List Expr), ∀ e ∈ es, N e.node
  | [], _, he => absurd he List.not_mem_nil
  | e :: r, _, he => (List.mem_cons.1 he).elim (fun q => q ▸ h.ofExpr e) (h.ofExprs r _)

theorem ofOperands (h : Induction N V) : ∀ (vs : List Operand), ∀ v ∈ vs, V v
  | [], _, hv => absurd hv List.not_mem_nil
  | v :: r, _, hv => (List.mem_cons.1 hv).elim (fun q => q ▸ h.ofOperand v) (h.ofOperands r _)

theorem ofBranches (h : Induction N V) :
    ∀ (bs : List Branch), ∀ b ∈ bs, V b.key ∧ V b.result
  | [], _, hb => absurd hb List.not_mem_nil
  | .mk k x :: r, _, hb =>
    (List.mem_cons.1 hb).elim (fun q => q ▸ ⟨h.ofOperand k, h.ofOperand x⟩) (h.ofBranches r _)

theorem ofOption (h : Induction N V) : ∀ (o : Option Operand), ∀ v ∈ o, V v
  | none, _, hv => absurd hv (by simp)
  | some v, _, hv => (Option.mem_some.1 hv) ▸ h.ofOperand v

end

end Induction

end ColumnSql
