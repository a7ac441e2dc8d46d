import ColumnSql.Expr.Build
import ColumnSql.Proofs.Expr.References

/-! Rendering without a dialect. It has the phrases, the conversions and the quotes for aliases of
the generic dialect, so the two differ in the literals of constants that are no raw SQL, and in
names that need quotes. -/

namespace ColumnSql

/-- No name of the column or its table needs quotes in the dialect. -/
structure Column.IsBare (c : Column) (d : Dialect) : Prop where
  name : d.needsQuotes c.name = false
  table : ∀ table ∈ c.table, d.needsQuotes table = false

theorem Dialect.quoteName_of_needsQuotes {d : Dialect} {s : String}
    (h : d.needsQuotes s = false) : d.quoteName s = s := by
  rw [quoteName, h, if_neg (by decide)]

namespace Target

def plain : Target := ⟨none⟩

def generic : Target := ⟨some Builtin.generic.dialect⟩

theorem phrase_plain : plain.phrase = generic.phrase := by
  funext p
  -- a template that stands in for one of the generic dialect is that very template
  rcases phrase_eq_or Builtin.generic.dialect p with h | ⟨-, h⟩ <;> exact h.symm

theorem akin_plain : plain.Akin generic where
  phrase := phrase_plain
  identifier := rfl
  conversion := rfl
  raw _ := rfl

theorem literal_plain {v : Value} (h : v.isRaw = true) : plain.literal v = generic.literal v := by
  cases v with
  | raw sql => exact akin_plain.raw sql
  | _ => cases h

end Target

theorem Column.IsBare.sql_plain {c : Column} (h : c.IsBare Builtin.generic.dialect)
    (ctx : Context) : c.sql .plain ctx = c.sql .generic ctx := by
  have hn (s : String) (hs : Builtin.generic.dialect.needsQuotes s = false) :
      Target.plain.name s = Target.generic.name s :=
    (Dialect.quoteName_of_needsQuotes hs).symm
  rw [Column.sql, Column.sql, hn c.name h.name]
  split
  next table _ ht => rw [hn table (h.table table ht)]
  next => rfl

/-- An expression whose constants are raw SQL, and whose columns and tables have names that need no
quotes, has the same SQL without a dialect as with the generic one. -/
theorem sql_without_dialect (e : Expr) (hv : ∀ v ∈ e.constants, v.isRaw = true)
    (hc : ∀ c ∈ e.references, c.IsBare Builtin.generic.dialect) (ctx : Context) :
    e.sql ⟨none⟩ ctx = e.sql ⟨some Builtin.generic.dialect⟩ ctx :=
  e.sql_congr_leaves {
    target := Target.akin_plain
    aliases := rfl
    column := fun c h => (hc c (Expr.mem_references.2 h)).sql_plain ctx
    constant := fun v h => Target.literal_plain (hv v h) }

/-- a decode of a conversion, with a raw key and a raw default, under a name in quotes -/
theorem sql_without_dialect_decode :
    let a : Expr := .column ⟨some "t", "A", .integer⟩ [0]
    let branches : List Branch := [.mk (.value (.raw "'1'")) (.expr a)]
    let decode : Expr :=
      .mk [2] [] (.decode (a.convertTo .varchar (some "0") [1]) branches (some (.value (.raw "")))
        .integer)
    let e : Expr := decode.named "a \"name\"" [3]
    (∀ v ∈ e.constants, v.isRaw = true) ∧
      (∀ c ∈ e.references, c.IsBare Builtin.generic.dialect) ∧
      e.sql ⟨none⟩ (.set .standard .aliases) =
        e.sql ⟨some Builtin.generic.dialect⟩ (.set .standard .aliases) := by
  intro a branches decode e
  have hv : ∀ v ∈ e.constants, v.isRaw = true := by
    intro v hv
    have hr : v = .raw "'1'" ∨ v = .raw "" := by
      simpa [e, decode, branches, a, Expr.constants, Node.constants, Operand.constants,
        Branch.allConstants, Expr.named, Expr.convertTo, Expr.column, Expr.ofNode] using hv
    rcases hr with rfl | rfl <;> rfl
  have hc : ∀ c ∈ e.references, c.IsBare Builtin.generic.dialect := by
    intro c hc
    have ha : c = ⟨some "t", "A", .integer⟩ := by
      simpa [Expr.mem_references, e, decode, branches, a, Expr.columns, Node.columns,
        Operand.columns, Branch.allColumns, Branch.columns, Expr.named, Expr.convertTo,
        Expr.column, Expr.ofNode] using hc
    subst ha
    exact ⟨by decide, by rintro _ ⟨⟩; decide⟩
  exact ⟨hv, hc, sql_without_dialect e hv hc _⟩

end ColumnSql
