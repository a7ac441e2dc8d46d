import ColumnSql.Document.Building
import ColumnSql.Proofs.Expr.Built
import ColumnSql.Proofs.Expr.Sql
import ColumnSql.Proofs.Lexical.Sign

/-! Constants that are subtracted. The literal comes right after the operator, so a literal with a
minus sign makes a comment of the rest; only `minus` turns the signs of some constants. -/

namespace ColumnSql

open Lexical

namespace Operand

/-- Beside an expression of type `t`, the operand is the constant `v` as a literal of type `u`. -/
inductive IsLiteral (t : DataType) : Operand → Value → DataType → Prop
  | value (v : Value) : IsLiteral t (.value v) v t
  | constant (p : Place) (a : Attributes) (v : Value) (u : DataType) :
    IsLiteral t (.expr (.mk p a (.constant v u))) v u
  | constantFor (p : Place) (a : Attributes) (c : Expr) (v : Value) :
    IsLiteral t (.expr (.mk p a (.constantFor c v))) v c.dataType

theorem IsLiteral.sql_eq {t u : DataType} {x : Operand} {v : Value} (h : x.IsLiteral t v u)
    (separator : String) (target : Target) (ctx : Context) :
    x.sql t separator target ctx = target.literal v u := by
  cases h <;> simp

end Operand

def StartsComment (s : String) : Prop := ['-', '-'] <+: s.toList

theorem startsComment_minus (s : String) : StartsComment ("-" ++ s) ↔ HasMinus s.toList := by
  rw [StartsComment, HasMinus, String.toList_append]
  cases s.toList <;> simp [eq_comm]

theorem not_startsComment_plus (s : String) : ¬ StartsComment ("+" ++ s) := by
  simp [StartsComment]

section

variable (b : Builtin) {e r : Expr} {x : Operand} {v : Value} {u : DataType} {place : Place}

theorem sql_of_arith {op : Operator} (hx : x.IsLiteral e.dataType v u)
    (h : e.arith op x place = .ok r) (t : Target) (ctx : Context) :
    r.sql t ctx = e.sql t ctx.inner ++ (op.symbol ++ t.literal v u) := by
  rw [Expr.eq_of_arith h, Expr.ofNode, Expr.sql_mk, Node.sql_arith, hx.sql_eq, String.append_assoc]

/-- A constant is subtracted by the operator and its literal, which start a comment if the constant
is a negative number, and so it is in documents. With `minus`, a negative integer is added as the
positive one instead, except for the least, which has none. -/
theorem sql_subtraction (hx : x.IsLiteral e.dataType v u) (ctx : Context) :
    (e.arith .minus x place = .ok r →
      ∃ s, r.sql ⟨some b.dialect⟩ ctx = e.sql ⟨some b.dialect⟩ ctx.inner ++ s ∧
        s = "-" ++ b.dialect.literal v u ∧ (StartsComment s ↔ IsNegativeAt v u)) ∧
    (e.minus x place = .ok r →
      ∃ s, r.sql ⟨some b.dialect⟩ ctx = e.sql ⟨some b.dialect⟩ ctx.inner ++ s ∧
        ((∃ n, x = .value (.int n) ∧ n < 0 ∧ n ≠ Int64.minValue ∧
            s = "+" ++ b.dialect.literal (.int (-n)) e.dataType ∧ ¬ StartsComment s) ∨
          Expr.negated? x = none ∧ s = "-" ++ b.dialect.literal v u ∧
            (StartsComment s ↔ IsNegativeAt v u))) ∧
    ∀ d y, d.build (1 :: place) = .ok e → y.build (2 :: place) = .ok x →
      (Document.arith d .minus y).build place = ofExprError (e.arith .minus x place) := by
  have hc : StartsComment ("-" ++ b.dialect.literal v u) ↔ IsNegativeAt v u :=
    (startsComment_minus _).trans (hasMinus_literal b v u)
  refine ⟨fun h => ⟨_, sql_of_arith hx h ⟨some b.dialect⟩ ctx, rfl, hc⟩, fun h => ?_, ?_⟩
  · unfold Expr.minus at h
    split at h
    next w hw =>
      obtain ⟨n, rfl, hn, hm, rfl⟩ := Expr.negated?_eq_some hw
      exact ⟨_, sql_of_arith (.value _) h ⟨some b.dialect⟩ ctx,
        .inl ⟨n, rfl, hn, hm, rfl, not_startsComment_plus _⟩⟩
    next hw => exact ⟨_, sql_of_arith hx h ⟨some b.dialect⟩ ctx, .inr ⟨hw, rfl, hc⟩⟩
  · intro d y hd hy
    rw [Document.build, hd, hy]
    rfl

end

theorem sql_subtraction_folded :
    let e := Expr.column ⟨none, "A", .integer⟩ []
    (Operand.value (.int (-3))).IsLiteral e.dataType (.int (-3)) .integer ∧
      ∃ r, e.minus (.value (.int (-3))) [] = .ok r ∧
        ∃ s, r.sql ⟨some Builtin.generic.dialect⟩ .standard = "A" ++ s ∧ ¬ StartsComment s := by
  intro e
  have hx : (Operand.value (.int (-3))).IsLiteral e.dataType (.int (-3)) .integer := .value _
  have he : e.sql ⟨some Builtin.generic.dialect⟩ Context.standard.inner = "A" := by decide +kernel
  obtain ⟨r, hr⟩ : ∃ r, e.minus (.value (.int (-3))) [] = .ok r := ⟨_, rfl⟩
  obtain ⟨s, hs, hc⟩ := (sql_subtraction .generic hx .standard).2.1 hr
  refine ⟨hx, r, hr, s, he ▸ hs, ?_⟩
  obtain ⟨_, _, _, _, _, hc⟩ | ⟨hn, _⟩ := hc
  · exact hc
  · cases hn

/-- The least integer is subtracted with two minus signs, as is any negative number in a
document. -/
theorem sql_subtraction_comment :
    let t : Target := ⟨some Builtin.generic.dialect⟩
    let e := Expr.column ⟨none, "A", .integer⟩ []
    (∃ r, e.minus (.value (.int Int64.minValue)) [] = .ok r ∧
        r.sql t .standard = "A--9223372036854775808") ∧
      ∃ r, (Document.arith (.column "A" none .integer) .minus (.plain (.int (-3)))).build [] =
          .ok r ∧ r.sql t .standard = "A--3" :=
  ⟨⟨_, rfl, by decide +kernel⟩, ⟨_, rfl, by decide +kernel⟩⟩

end ColumnSql
