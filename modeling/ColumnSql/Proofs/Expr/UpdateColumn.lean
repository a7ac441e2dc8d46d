import ColumnSql.Proofs.Expr.Parameters
import ColumnSql.Proofs.Expr.References

/-! The update column of what is made of columns and constants. Some functions keep that of their
first operand, and all others have none. So the update column is where the first operands lead to
from the root, if only such functions as keep it are on the way. -/

namespace ColumnSql

namespace Expr

def derivedFunctions : List (Expr → Place → Expr) :=
  [reverse, upper, lower, trim, trimLeft, trimRight, abs, floor, ceiling]

def computedFunctions : List (Expr → Place → Expr) :=
  [length, day, month, year, sum, min, max, avg, count, countDistinct]

/-- The node is made of its first operand by a function that keeps the update column. -/
inductive Keeps : Expr → Node → Prop
  | parenthesis (e : Expr) (place : Place) : Keeps e (e.parenthesis place).node
  | named (e : Expr) (name : String) (place : Place) : Keeps e (e.named name place).node
  | decode {e r : Expr} {pairs : List (Operand × Operand)} {otherwise : Option Operand}
    {t : DataType} {place : Place} : e.decode pairs otherwise t place = .ok r → Keeps e r.node
  | unary {f} (e : Expr) (place : Place) : f ∈ derivedFunctions → Keeps e (f e place).node
  | withNumber {f} (e : Expr) (n : Int64) (place : Place) : f ∈ numberFunctions →
    Keeps e (f e n place).node
  | substringWithLength (e : Expr) (start count : Int64) (place : Place) :
    Keeps e (e.substringWithLength start count place).node
  | withOperand {f} {e r : Expr} {v : Operand} {place : Place} : f ∈ operandFunctions →
    f e v place = .ok r → Keeps e r.node
  | withOperands {f} {e r : Expr} {v w : Operand} {place : Place} : f ∈ twoOperandFunctions →
    f e v w place = .ok r → Keeps e r.node

end Expr

/-- The node is a constant with a type of its own, or made by a function whose results have no
column behind them. -/
inductive Node.IsComputed : Node → Prop
  | constant {v : Value} {t : DataType} {place : Place} {r : Expr} :
    Expr.constant v t place = .ok r → IsComputed r.node
  | countAll (place : Place) : IsComputed (Expr.countAll place).node
  | operation {f} {e r : Expr} {v : Operand} {place : Place} : f ∈ Expr.operations →
    f e v place = .ok r → IsComputed r.node
  | append (e : Expr) (v : Operand) (place : Place) : IsComputed (e.append v place).node
  | prepend {e r : Expr} {v : Operand} {place : Place} : e.prepend v place = .ok r →
    IsComputed r.node
  | concat (e : Expr) (others : List Expr) (place : Place) : IsComputed (e.concat others place).node
  | concatSeparated (e : Expr) (separator : String) (others : List Expr) (place : Place) :
    IsComputed (e.concatSeparated separator others place).node
  | function {e r : Expr} {template : String} {aggregate : Bool} {t : Option DataType}
    {place : Place} : e.function template none aggregate t place = .ok r → IsComputed r.node
  | unary {f} (e : Expr) (place : Place) : f ∈ Expr.computedFunctions → IsComputed (f e place).node
  | escape (e : Expr) (c : Char) (place : Place) : IsComputed (e.escape c place).node
  | format (e : Expr) (pattern : String) (place : Place) : IsComputed (e.format pattern place).node
  | convertTo (e : Expr) (dest : DataType) (format : Option String) (place : Place) :
    IsComputed (e.convertTo dest format place).node
  | call (before : String) (e : Expr) (after : String) (place : Place) :
    IsComputed (Expr.call before e after none place).node
  | callTwo (before : String) (a : Expr) (between : String) (b : Expr) (after : String)
    (place : Place) : IsComputed (Expr.callTwo before a between b after none place).node

def Node.IsPhrase (e : Expr) (update : Option Column) (n : Node) : Prop :=
  ∃ p params type t, n = .phrase e p params type update t

namespace Expr

/-- The expression is a column, or made by functions that keep the update column from one that is,
or from what is computed. Whatever is noted about an expression, it is made as its node is. All
operands but the first may be any, and so may those of what is computed. -/
inductive Made : Expr → Prop
  | column {e : Expr} {c : Column} : e.node = .column c → Made e
  | kept {a e : Expr} : Made a → a.Keeps e.node → Made e
  | computed {e : Expr} : e.node.IsComputed → Made e

/-- The first operands lead from `e` down to `x`. -/
def Leads : Expr → Expr → Prop := Relation.ReflTransGen fun e x => e.node.parts.head? = some x

/-- The expression is a column or keeps the update column of its first operand. -/
def IsKeeping (e : Expr) : Prop := (∃ c, e.node = .column c) ∨ ∃ a : Expr, a.Keeps e.node

section Phrases

variable {e r : Expr} {place : Place}

theorem isPhrase_of_phrase {p : Phrase} {params : List Operand} {type : DataType}
    {update : Option Column} {t : Option DataType}
    (h : e.phrase p params type update t place = .ok r) :
    r.node.IsPhrase e update := by
  obtain ⟨-, -, rfl⟩ := phrase_eq_ok_iff.1 h
  exact ⟨p, params, type, t, rfl⟩

theorem isPhrase_derived {f} (hf : f ∈ derivedFunctions) (e : Expr) (place : Place) :
    (f e place).node.IsPhrase e e.updateColumn := by
  simp only [derivedFunctions, List.mem_cons, List.not_mem_nil, or_false] at hf
  rcases hf with rfl | rfl | rfl | rfl | rfl | rfl | rfl | rfl | rfl <;> exact ⟨_, _, _, _, rfl⟩

theorem isPhrase_computed {f} (hf : f ∈ computedFunctions) (e : Expr) (place : Place) :
    (f e place).node.IsPhrase e none := by
  simp only [computedFunctions, List.mem_cons, List.not_mem_nil, or_false] at hf
  rcases hf with rfl | rfl | rfl | rfl | rfl | rfl | rfl | rfl | rfl | rfl <;>
    exact ⟨_, _, _, _, rfl⟩

theorem isPhrase_number {f} (hf : f ∈ numberFunctions) (e : Expr) (n : Int64)
    (place : Place) : (f e n place).node.IsPhrase e e.updateColumn := by
  simp only [numberFunctions, List.mem_cons, List.not_mem_nil, or_false] at hf
  rcases hf with rfl | rfl | rfl <;> exact ⟨_, _, _, _, rfl⟩

theorem isPhrase_operand {f} (hf : f ∈ operandFunctions) {v : Operand}
    (h : f e v place = .ok r) : r.node.IsPhrase e e.updateColumn := by
  simp only [operandFunctions, List.mem_cons, List.not_mem_nil, or_false] at hf
  rcases hf with rfl | rfl | rfl <;> exact isPhrase_of_phrase h

theorem isPhrase_operands {f} (hf : f ∈ twoOperandFunctions) {v w : Operand}
    (h : f e v w place = .ok r) : r.node.IsPhrase e e.updateColumn := by
  simp only [twoOperandFunctions, List.mem_cons, List.not_mem_nil, or_false] at hf
  rcases hf with rfl | rfl
  · exact isPhrase_of_phrase h
  · obtain ⟨_, _, h⟩ := exists_of_bind_eq_ok h
    exact isPhrase_of_phrase h

end Phrases

end Expr

theorem Node.IsComputed.updateColumn {n : Node} (h : n.IsComputed) : n.updateColumn = none := by
  cases h with
  | constant h =>
    obtain rfl := Expr.eq_of_constant h
    rfl
  | operation hf h =>
    obtain ⟨op, w, -, rfl⟩ := Expr.exists_arith_of_mem hf h
    rfl
  | prepend h =>
    obtain ⟨left, -, rfl | rfl⟩ := Expr.exists_of_prepend h <;> rfl
  | function h =>
    obtain ⟨before, after, -, -, rfl⟩ := Expr.function_eq_ok_iff.1 h
    rfl
  | unary e place hf =>
    obtain ⟨p, params, type, t, he⟩ := Expr.isPhrase_computed hf e place
    rw [he]
    rfl
  | _ => rfl

namespace Expr

section Steps

variable {a e x : Expr} {n : Node} {c : Column}

/-- What keeps the update column is one of four kinds of nodes, each with the column that its first
operand has. -/
theorem Keeps.node_cases (h : e.Keeps n) :
    n = .wrap e "(" ")" e.updateColumn false none ∨ (∃ name, n = .named e name) ∨
      (∃ branches otherwise t, n = .decode e branches otherwise t) ∨
      n.IsPhrase e e.updateColumn := by
  cases h with
  | parenthesis e place => exact .inl rfl
  | named e name place => exact .inr (.inl ⟨name, rfl⟩)
  | decode h =>
    obtain ⟨branches, -, rfl⟩ := exists_of_decode h
    exact .inr (.inr (.inl ⟨branches, _, _, rfl⟩))
  | unary e place hf => exact .inr (.inr (.inr (isPhrase_derived hf e place)))
  | withNumber e k place hf => exact .inr (.inr (.inr (isPhrase_number hf e k place)))
  | substringWithLength e start count place => exact .inr (.inr (.inr ⟨_, _, _, _, rfl⟩))
  | withOperand hf h => exact .inr (.inr (.inr (isPhrase_operand hf h)))
  | withOperands hf h => exact .inr (.inr (.inr (isPhrase_operands hf h)))

theorem Keeps.head?_parts (h : e.Keeps n) : n.parts.head? = some e := by
  obtain rfl | ⟨name, rfl⟩ | ⟨branches, otherwise, t, rfl⟩ | ⟨p, params, type, t, rfl⟩ :=
    h.node_cases <;> rfl

theorem Keeps.updateColumn (h : e.Keeps n) : n.updateColumn = e.updateColumn := by
  obtain rfl | ⟨name, rfl⟩ | ⟨branches, otherwise, t, rfl⟩ | ⟨p, params, type, t, rfl⟩ :=
    h.node_cases <;> rfl

theorem Keeps.isConstantFor (h : e.Keeps n) : n.isConstantFor = false := by
  obtain rfl | ⟨name, rfl⟩ | ⟨branches, otherwise, t, rfl⟩ | ⟨p, params, type, t, rfl⟩ :=
    h.node_cases <;> rfl

theorem updateColumn_node (e : Expr) : e.updateColumn = e.node.updateColumn := by
  cases e
  rfl

theorem leads_iff (h : e.node.parts.head? = some a) : e.Leads x ↔ e = x ∨ a.Leads x := by
  rw [Leads, Relation.ReflTransGen.cases_head_iff]
  refine or_congr_right ⟨?_, fun ha => ⟨a, h, ha⟩⟩
  rintro ⟨b, hb, hx⟩
  obtain rfl := Option.some_inj.1 (h.symm.trans hb)
  exact hx

theorem leads_column (h : e.node = .column c) : e.Leads x ↔ e = x := by
  rw [Leads, Relation.ReflTransGen.cases_head_iff]
  refine or_iff_left ?_
  rintro ⟨b, hb, -⟩
  rw [h] at hb
  cases hb

/-- If all on the way keep the update column, it is that of where they lead to, and no constant is
on the way. -/
theorem Leads.updateColumn_eq (h : e.Leads x) (hk : ∀ y, e.Leads y → y.IsKeeping) :
    e.updateColumn = x.updateColumn ∧ e.Reaches Node.isConstantFor x := by
  -- along the way, from its end
  induction h using Relation.ReflTransGen.head_induction_on with
  | refl => exact ⟨rfl, .refl⟩
  | @head e a ha _ ih =>
    obtain ⟨hu, hr⟩ := ih fun y hy => hk y ((leads_iff ha).2 (.inr hy))
    rcases hk e .refl with ⟨c, hc⟩ | ⟨b, hb⟩
    · rw [hc] at ha
      cases ha
    · obtain rfl := Option.some_inj.1 (hb.head?_parts.symm.trans ha)
      rw [updateColumn_node, hb.updateColumn]
      exact ⟨hu, .head ⟨hb.isConstantFor, List.mem_of_mem_head? ha⟩ hr⟩

/-- What has an update column is led to that column, by such as keep it. -/
theorem Made.exists_leads (h : e.Made) (hc : e.updateColumn = some c) :
    (∃ x, e.Leads x ∧ x.node = .column c) ∧ ∀ y, e.Leads y → y.IsKeeping := by
  induction h with
  | @column e d hd =>
    rw [updateColumn_node, hd] at hc
    obtain rfl := Option.some_inj.1 hc
    refine ⟨⟨e, .refl, hd⟩, fun y hy => ?_⟩
    obtain rfl := (leads_column hd).1 hy
    exact .inl ⟨d, hd⟩
  | @kept a e _ hk ih =>
    rw [updateColumn_node, hk.updateColumn] at hc
    obtain ⟨⟨x, hx, hn⟩, ha⟩ := ih hc
    refine ⟨⟨x, (leads_iff hk.head?_parts).2 (.inr hx), hn⟩, fun y hy => ?_⟩
    rcases (leads_iff hk.head?_parts).1 hy with rfl | hy
    · exact .inr ⟨a, hk⟩
    · exact ha y hy
  | @computed e hn =>
    rw [updateColumn_node, hn.updateColumn] at hc
    cases hc

theorem Made.updateColumn_eq_some_iff (h : e.Made) : e.updateColumn = some c ↔
    (∃ x, e.Leads x ∧ x.node = .column c) ∧ ∀ y, e.Leads y → y.IsKeeping := by
  constructor
  · exact h.exists_leads
  · rintro ⟨⟨x, hx, hn⟩, hk⟩
    rw [(hx.updateColumn_eq hk).1, updateColumn_node, hn]
    rfl

theorem Made.mem_references (h : e.Made) (hc : e.updateColumn = some c) : c ∈ e.references := by
  obtain ⟨⟨x, hx, hn⟩, hk⟩ := h.exists_leads hc
  exact (mem_references_iff_reaches c e).2 ⟨x, (hx.updateColumn_eq hk).2, hn⟩

theorem Made.updateColumn_eq_none (h : e.Made) (hx : e.Leads x) (hn : x.node.IsComputed) :
    e.updateColumn = none := by
  refine Option.eq_none_iff_forall_ne_some.2 fun c hc => ?_
  obtain ⟨-, hk⟩ := h.exists_leads hc
  rw [(hx.updateColumn_eq hk).1, updateColumn_node, hn.updateColumn] at hc
  cases hc

end Steps

end Expr

/-- An expression has an update column exactly if the first operands lead from it to a column and
each on the way, from the root to that column, keeps what its first operand has. It is that column
then, and one that the expression uses. If one on the way is computed, there is none. -/
theorem updateColumn_leads {e : Expr} (h : e.Made) :
    (∀ c, e.updateColumn = some c ↔
      (∃ x, e.Leads x ∧ x.node = .column c) ∧ ∀ y, e.Leads y → y.IsKeeping) ∧
    (∀ c, e.updateColumn = some c → c ∈ e.references) ∧
    ∀ x, e.Leads x → x.node.IsComputed → e.updateColumn = none :=
  ⟨fun _ => h.updateColumn_eq_some_iff, fun _ => h.mem_references,
    fun _ => h.updateColumn_eq_none⟩

/-- Functions around a column, and around its length. -/
theorem updateColumn_leads_length :
    let c : Column := ⟨some "t", "A", .varchar⟩
    let a : Expr := .column c [0]
    let b : Expr := .column ⟨none, "B", .varchar⟩ [1]
    (∃ r, (a.upper [2]).coalesce (.expr b) [3] = .ok r ∧
      let e := (r.parenthesis [4]).named "X" [5]
      e.Made ∧ e.updateColumn = some c ∧ c ∈ e.references) ∧
    let e := (a.length [2]).abs [3]
    e.Made ∧ e.updateColumn = none := by
  intro c a b
  have ha : a.Made := .column rfl
  obtain ⟨r, hr⟩ : ∃ r, (a.upper [2]).coalesce (.expr b) [3] = .ok r := ⟨_, rfl⟩
  have hu : (a.upper [2]).Made := .kept ha (.unary a [2] (by simp [Expr.derivedFunctions]))
  have hm : r.Made := .kept hu (.withOperand (by simp [Expr.operandFunctions]) hr)
  have he : ((r.parenthesis [4]).named "X" [5]).Made :=
    .kept (.kept hm (.parenthesis r [4])) (.named _ "X" [5])
  have hc : ((r.parenthesis [4]).named "X" [5]).updateColumn = some c := by
    cases hr
    rfl
  have hl : (a.length [2]).node.IsComputed :=
    .unary a [2] (by simp [Expr.computedFunctions])
  have hn : ((a.length [2]).abs [3]).Made :=
    .kept (.computed hl) (.unary _ [3] (by simp [Expr.derivedFunctions]))
  exact ⟨⟨r, hr, he, hc, (updateColumn_leads he).2.1 c hc⟩, hn,
    (updateColumn_leads hn).2.2 _ (.single rfl) hl⟩

end ColumnSql
