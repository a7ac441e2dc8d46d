import ColumnSql.Expr.Description
import ColumnSql.Proofs.Expr.Reach
import Mathlib.Data.Set.Operations

/-! The columns that an expression uses. They are the columns that its description shows, and those
that one comes to from the root; the column of a constant is not among them. Only through them a
table comes into the SQL. -/

namespace ColumnSql

mutual

theorem Operand.columns_eq : ∀ v : Operand, v.columns = v.exprs.flatMap Expr.columns
  | .expr e => by simp [columns, exprs]
  | .value _ => rfl
  | .list items => Operand.allColumns_exprs items

theorem Operand.allColumns_exprs :
    ∀ vs : List Operand, allColumns vs = (allExprs vs).flatMap Expr.columns
  | [] => rfl
  | v :: r => by
    rw [allColumns, allExprs, List.flatMap_append, Operand.columns_eq v, Operand.allColumns_exprs r]

end

def Node.isConstantFor : Node → Bool
  | .constantFor .. => true
  | _ => false

theorem Node.columns_eq_flatMap {n : Node} (hc : ∀ c, n ≠ .column c)
    (hf : n.isConstantFor = false) : n.columns = n.parts.flatMap Expr.columns := by
  cases n with
  | column c => exact absurd rfl (hc c)
  | constantFor c v => cases hf
  | constant v t => rfl
  | arith e op v | concat e v => simp [columns, parts, v.columns_eq]
  | concatAll e separator others => simp [columns, parts, Expr.allColumns_eq]
  | phrase e p params type update t =>
    simp [columns, parts, Operand.allColumns_eq, List.flatMap_assoc, ← Operand.columns_eq]
  | decode e branches otherwise t =>
    simp [columns_decode, parts, List.flatMap_assoc, ← Operand.columns_eq]
  | _ => simp [columns, parts]

theorem Node.mem_columns_iff (c : Column) (n : Node) :
    c ∈ n.columns ↔
      n = .column c ∨ n.isConstantFor = false ∧ ∃ x ∈ n.parts, c ∈ x.node.columns := by
  by_cases hc : ∃ d, n = .column d
  · obtain ⟨d, rfl⟩ := hc
    simpa [columns, parts] using eq_comm
  have hn (d : Column) : n ≠ .column d := fun h => hc ⟨d, h⟩
  cases hf : n.isConstantFor with
  | true =>
    obtain ⟨d, v, rfl⟩ : ∃ d v, n = .constantFor d v := by
      cases n with
      | constantFor d v => exact ⟨d, v, rfl⟩
      | _ => cases hf
    simp [columns]
  | false =>
    rw [columns_eq_flatMap hn hf]
    simp [hn, Expr.columns_node]

namespace Description

theorem walk_eq (d : Description) : d.walk = d :: d.children.flatMap walk := by
  have h (ds : List Description) : walkAll ds = ds.flatMap walk := by
    induction ds with
    | nil => rfl
    | cons d r ih => rw [walkAll, ih, List.flatMap_cons]
  cases d
  rw [walk, h]

def columns (d : Description) : List (Option String × DataType) :=
  (d.walk.filter (·.kind = .column)).map fun x => (x.name, x.dataType)

theorem columns_eq {d : Description} (h : d.kind ≠ .column) :
    d.columns = d.children.flatMap columns := by
  unfold columns
  rw [walk_eq, List.filter_cons_of_neg (by simpa using h)]
  simp [List.filter_flatMap, List.map_flatMap]

end Description

def Column.shown (c : Column) : Option String × DataType := (some c.fullName, c.dataType)

theorem Node.columns_described (n : Node) {kind : Description.Kind} (h : kind ≠ .column)
    (function : Option String) (children : List Description) :
    (n.described kind function children).columns = children.flatMap Description.columns :=
  Description.columns_eq h

theorem Expr.columns_describe (e : Expr) : e.describe.columns = e.node.describe.columns := by
  rcases e with ⟨place, attributes, n⟩
  simp only [describe, node, Description.columns, Description.walk_eq, List.filter_cons]
  split <;> rfl

theorem Expr.columns_described {e : Expr}
    (h : e.node.describe.columns = e.node.columns.map Column.shown) :
    e.describe.columns = e.columns.map Column.shown := by
  rw [e.columns_describe, h, e.columns_node]

theorem Expr.columns_describeAll {es : List Expr}
    (h : ∀ e ∈ es, e.node.describe.columns = e.node.columns.map Column.shown) :
    (describeAll es).flatMap Description.columns = (allColumns es).map Column.shown := by
  induction es with
  | nil => rfl
  | cons e r ih =>
    obtain ⟨he, hr⟩ := List.forall_mem_cons.1 h
    simp [describeAll, allColumns, columns_described he, ih hr]

theorem Operand.columns_describeAll {vs : List Operand}
    (h : ∀ v ∈ vs, v.describe.columns = v.columns.map Column.shown) :
    (describeAll vs).flatMap Description.columns = (allColumns vs).map Column.shown := by
  induction vs with
  | nil => rfl
  | cons v r ih =>
    obtain ⟨hv, hr⟩ := List.forall_mem_cons.1 h
    simp [describeAll, allColumns, hv, ih hr]

theorem Branch.columns_describeAll {bs : List Branch}
    (h : ∀ b ∈ bs, b.key.describe.columns = b.key.columns.map Column.shown ∧
      b.result.describe.columns = b.result.columns.map Column.shown) :
    (describeAll bs).flatMap Description.columns = (allColumns bs).map Column.shown := by
  induction bs with
  | nil => rfl
  | cons b r ih =>
    obtain ⟨⟨hk, hx⟩, hr⟩ := List.forall_mem_cons.1 h
    rcases b with ⟨k, x⟩
    rw [key] at hk
    rw [result] at hx
    simp [describeAll, allColumns, columns, hk, hx, ih hr]

section

attribute [local simp] Node.describe Node.columns Node.columns_described

/-- The descriptions show the columns as they are collected: from the left and with repeats. -/
theorem induction_described :
    Induction (fun n => n.describe.columns = n.columns.map Column.shown)
      (fun v => v.describe.columns = v.columns.map Column.shown) where
  column c := rfl
  constant v t := rfl
  constantFor c v _ := rfl
  arith e op v he hv := by simp [Expr.columns_described he, hv]
  concat e v he hv := by simp [Expr.columns_described he, hv]
  concatAll e separator others he ho := by
    simp [Expr.columns_described he, Expr.columns_describeAll ho]
  wrap e _ _ _ _ _ he := by simp [Expr.columns_described he]
  phrase e _ params _ _ _ he hp := by
    simp [Expr.columns_described he, Operand.columns_describeAll hp]
  convert e _ _ he := by simp [Expr.columns_described he]
  call _ e _ _ he := by simp [Expr.columns_described he]
  callTwo _ a _ b _ _ ha hb := by simp [Expr.columns_described ha, Expr.columns_described hb]
  decode e branches otherwise t he hb ho := by
    cases otherwise with
    | none => simp [Expr.columns_described he, Branch.columns_describeAll hb]
    | some v => simp [Expr.columns_described he, Branch.columns_describeAll hb, ho v rfl]
  named e _ he := by simp [Expr.columns_described he]
  expr e he := by simp [Operand.describe, Operand.columns, Expr.columns_described he]
  value v := rfl
  list items hi := by
    rw [Operand.describe, Description.columns_eq (by simp), Operand.columns]
    exact Operand.columns_describeAll hi

end

theorem Column.mem_sorted {c : Column} {cs : List Column} : c ∈ sorted cs ↔ c ∈ cs := by
  rw [sorted, List.mem_mergeSort, List.mem_eraseDups]

theorem Expr.mem_references {c : Column} {e : Expr} : c ∈ e.references ↔ c ∈ e.columns :=
  Column.mem_sorted

theorem Expr.mem_references_iff_reaches (c : Column) (e : Expr) :
    c ∈ e.references ↔ ∃ x, e.Reaches Node.isConstantFor x ∧ x.node = .column c := by
  rw [mem_references, columns_node]
  exact e.iff_exists_reaches (Node.mem_columns_iff c)

theorem Expr.exists_references_iff (e : Expr) (x : Option String × DataType) :
    (∃ c ∈ e.references, x = c.shown) ↔ x ∈ e.describe.columns := by
  rw [e.columns_describe, induction_described.ofNode e.node, ← columns_node]
  simp [mem_references, eq_comm]

theorem Column.sql_of_table_eq_none {c : Column} (h : c.table = none) (t : Target) (ctx : Context) :
    c.sql t ctx = t.name c.name := by
  rw [sql, h]
  split
  next h => cases h
  next => rfl

theorem Context.has_aliases_set_fullName (ctx : Context) :
    (ctx.set .fullName).has .aliases = (ctx.clear .fullName).has .aliases := by
  have hc : (~~~2 &&& 8 : UInt32) = 8 := by decide
  have hs : (ctx.bits ||| 2) &&& 8 = ctx.bits &&& 8 := by
    apply UInt32.toBitVec_inj.1
    simp [BitVec.and_or_distrib_right]
  simp [has, set, clear, fullName, aliases, UInt32.and_assoc, hc, hs]

/-- Only columns that have a table are written in another way if names are to be full. -/
theorem Expr.sql_fullName {e : Expr} (h : ∀ c ∈ e.references, c.table = none) (t : Target)
    (ctx : Context) : e.sql t (ctx.set .fullName) = e.sql t (ctx.clear .fullName) :=
  e.sql_congr_columns {
    target := .refl t
    aliases := ctx.has_aliases_set_fullName
    sql := fun c hc => by
      have hn := h c (mem_references.2 hc)
      rw [c.sql_of_table_eq_none hn, c.sql_of_table_eq_none hn] }

/-- The columns that an expression uses are those that its description shows, by name and type. They
are the columns that one comes to from the root, but for those behind constants. If none of them
has a table, names are full already: the SQL is the same whether full names are asked for or not. -/
theorem references_described (e : Expr) :
    {x | ∃ c ∈ e.references, x = (some c.fullName, c.dataType)} =
        {x | ∃ d ∈ e.describe.walk, d.kind = .column ∧ x = (d.name, d.dataType)} ∧
      (∀ c, c ∈ e.references ↔ ∃ x, e.Reaches Node.isConstantFor x ∧ x.node = .column c) ∧
      ((∀ c ∈ e.references, c.table = none) →
        ∀ (t : Target) (ctx : Context),
          e.sql t (ctx.set .fullName) = e.sql t (ctx.clear .fullName)) := by
  refine ⟨Set.ext fun x => ?_, fun c => Expr.mem_references_iff_reaches c e, Expr.sql_fullName⟩
  refine (e.exists_references_iff x).trans ?_
  simp [Description.columns, and_assoc, eq_comm]

/-- a column without a table, and a constant for one that has a table -/
theorem references_described_constantFor :
    let c : Column := ⟨none, "A", .integer⟩
    let backed : Expr := .mk [1] [] (.column ⟨some "t", "B", .integer⟩)
    let v : Operand := .list [.value (.int 1), .expr (.mk [2] [] (.constantFor backed (.int 2)))]
    let e : Expr := .mk [3] [] (.arith (.mk [0] [] (.column c)) .plus v)
    (∀ c ∈ e.references, c.table = none) ∧
      e.sql ⟨some Builtin.generic.dialect⟩ (.set .standard .fullName) =
        e.sql ⟨some Builtin.generic.dialect⟩ (.clear .standard .fullName) := by
  intro c backed v e
  have h : ∀ c ∈ e.references, c.table = none := by
    intro d hd
    obtain rfl : d = c := by
      simpa [Expr.mem_references, e, v, backed, Expr.columns, Node.columns, Operand.columns,
        Operand.allColumns] using hd
    rfl
  exact ⟨h, (references_described e).2.2 h _ _⟩

end ColumnSql
