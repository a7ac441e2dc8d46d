import ColumnSql.Expr.Basic
import ColumnSql.Proofs.Decimal.Equality

/-! Being the same is an equivalence of the operands that pass a check. Of all operands only NaN, by
itself or in a list, is not the same as itself, and NaN passes no check. -/

namespace ColumnSql

open Decimal

namespace Value

theorem same_iff {a b : Value} : a.same b = true ↔
    (∃ x y, a = .float x ∧ b = .float y ∧ (x == y) = true) ∨ (∀ x, a ≠ .float x) ∧ a = b := by
  cases a with
  | float x => cases b <;> simp [same]
  | _ => cases b <;> simp [same]

theorem same_comm (a b : Value) : a.same b = b.same a := by
  cases a with
  | float x =>
    cases b with
    | float y => exact float_beq_comm x y
    | _ => rfl
  | _ => cases b <;> first | rfl | exact BEq.comm

theorem same_trans {a b c : Value} (hab : a.same b = true) (hbc : b.same c = true) :
    a.same c = true := by
  obtain ⟨x, y, rfl, rfl, hx⟩ | ⟨-, rfl⟩ := same_iff.1 hab
  · obtain ⟨_, z, hy, rfl, hz⟩ | ⟨hy, -⟩ := same_iff.1 hbc
    · cases hy
      exact float_beq_trans hx hz
    · exact absurd rfl (hy y)
  · exact hbc

theorem isFinite_of_check {x : Float} {t : DataType} (h : (float x).check t = .ok ()) :
    isFinite x = true := by
  cases hx : isFinite x with
  | true => rfl
  | false =>
    by_cases ht : t = .blob <;> simp [check, isEmpty, isRaw, hx, ht] at h

theorem same_self {v : Value} {t : DataType} (h : v.check t = .ok ()) : v.same v = true := by
  cases v with
  | float x => exact float_beq_self (isFinite_of_check h)
  | _ => exact same_iff.2 (.inr ⟨by simp, rfl⟩)

end Value

namespace Operand

mutual

theorem same_comm : ∀ a b : Operand, a.same b = b.same a
  | .expr _, .expr _ => BEq.comm
  | .value a, .value b => Value.same_comm a b
  | .list a, .list b => sameItems_comm a b
  | .expr _, .value _ | .expr _, .list _ | .value _, .expr _ | .value _, .list _
  | .list _, .expr _ | .list _, .value _ => rfl

theorem sameItems_comm : ∀ a b : List Operand, sameItems a b = sameItems b a
  | [], [] | [], _ :: _ | _ :: _, [] => rfl
  | a :: r, b :: s => by rw [sameItems, sameItems, same_comm a b, sameItems_comm r s]

end

theorem same_expr_iff {e : Expr} {w : Operand} :
    (expr e).same w = true ↔ ∃ f, w = .expr f ∧ e.place = f.place := by
  cases w <;> simp [same, Expr.same]

theorem same_value_iff {v : Value} {w : Operand} :
    (value v).same w = true ↔ ∃ u, w = .value u ∧ v.same u = true := by
  cases w <;> simp [same]

theorem same_list_iff {r : List Operand} {w : Operand} :
    (list r).same w = true ↔ ∃ s, w = .list s ∧ sameItems r s = true := by
  cases w <;> simp [same]

mutual

theorem same_trans : ∀ {a b c : Operand}, a.same b = true → b.same c = true → a.same c = true
  | .expr _, _, _, hab, hbc => by
    obtain ⟨_, rfl, he⟩ := same_expr_iff.1 hab
    obtain ⟨f, rfl, hf⟩ := same_expr_iff.1 hbc
    exact same_expr_iff.2 ⟨f, rfl, he.trans hf⟩
  | .value _, _, _, hab, hbc => by
    obtain ⟨_, rfl, hv⟩ := same_value_iff.1 hab
    obtain ⟨u, rfl, hu⟩ := same_value_iff.1 hbc
    exact same_value_iff.2 ⟨u, rfl, Value.same_trans hv hu⟩
  | .list _, _, _, hab, hbc => by
    obtain ⟨_, rfl, hr⟩ := same_list_iff.1 hab
    obtain ⟨s, rfl, hs⟩ := same_list_iff.1 hbc
    exact same_list_iff.2 ⟨s, rfl, sameItems_trans hr hs⟩

theorem sameItems_trans : ∀ {a b c : List Operand}, sameItems a b = true →
    sameItems b c = true → sameItems a c = true
  | [], [], _, _, h => h
  | _ :: _, _ :: _, _ :: _, hab, hbc => by
    rw [sameItems, Bool.and_eq_true] at *
    exact ⟨same_trans hab.1 hbc.1, sameItems_trans hab.2 hbc.2⟩

end

mutual

theorem same_self {t : DataType} : ∀ {v : Operand}, v.check t = .ok () → v.same v = true
  | .expr _, _ => BEq.rfl
  | .value _, h => Value.same_self h
  | .list _, h => sameItems_self h

theorem sameItems_self {t : DataType} : ∀ {vs : List Operand}, checkItems vs t = .ok () →
    sameItems vs vs = true
  | [], _ => rfl
  | v :: r, h => by
    rw [checkItems] at h
    split at h
    next hv => rw [sameItems, same_self hv, sameItems_self h, Bool.and_self]
    next => cases h

end

end Operand

end ColumnSql
