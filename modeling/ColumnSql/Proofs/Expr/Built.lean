import ColumnSql.Expr.Build
import ColumnSql.Proofs.Except
import ColumnSql.Proofs.Lexical.Scan

/-! Expressions made by the functions that make expressions, without SQL that the caller writes and
without formats of conversions. Each such function makes one node of its arguments. -/

namespace ColumnSql

namespace Expr

def unaryFunctions : List (Expr → Place → Expr) :=
  [reverse, upper, lower, trim, trimLeft, trimRight, abs, floor, ceiling, length, day, month, year,
    sum, min, max, avg, count, countDistinct]

def operandFunctions : List (Expr → Operand → Place → Except ExprError Expr) :=
  [coalesce, modulo, indexOf]

def twoOperandFunctions : List (Expr → Operand → Operand → Place → Except ExprError Expr) :=
  [replace, indexOfFrom]

def numberFunctions : List (Expr → Int64 → Place → Expr) := [substring, round, trunc]

def operations : List (Expr → Operand → Place → Except ExprError Expr) :=
  [plus, minus, multiply, divide]

end Expr

def HasNoQuotes (name : String) : Prop := ∀ c ∈ name.toList, c ∉ Lexical.nameQuotes

instance (name : String) : Decidable (HasNoQuotes name) :=
  decidable_of_iff (name.toList.all (· ∉ Lexical.nameQuotes) = true) (by simp [HasNoQuotes])

/-- The operand is made of constants other than raw SQL and of expressions that the functions make
without SQL of the caller and from names without quotes. -/
inductive Built : Operand → Prop
  | value {v : Value} : v.isRaw = false → Built (.value v)
  | list {items : List Operand} : (∀ v ∈ items, Built v) → Built (.list items)
  | column {c : Column} (place : Place) : HasNoQuotes c.name →
    (∀ table ∈ c.table, HasNoQuotes table) → Built (.expr (.column c place))
  | constant {v : Value} {t : DataType} {place : Place} {r : Expr} : v.isRaw = false →
    Expr.constant v t place = .ok r → Built (.expr r)
  | constantFor {c r : Expr} {v : Value} {place : Place} : v.isRaw = false →
    Expr.constantFor c v place = .ok r → Built (.expr r)
  | countAll (place : Place) : Built (.expr (.countAll place))
  | operation {f} {e r : Expr} {v : Operand} {place : Place} : f ∈ Expr.operations →
    Built (.expr e) → Built v → f e v place = .ok r → Built (.expr r)
  | append {e : Expr} {v : Operand} (place : Place) : Built (.expr e) → Built v →
    Built (.expr (e.append v place))
  | prepend {e r : Expr} {v : Operand} {place : Place} : Built (.expr e) → Built v →
    e.prepend v place = .ok r → Built (.expr r)
  | concat {e : Expr} {others : List Expr} (place : Place) : Built (.expr e) →
    (∀ x ∈ others, Built (.expr x)) → Built (.expr (e.concat others place))
  | concatSeparated {e : Expr} (separator : String) {others : List Expr} (place : Place) :
    Built (.expr e) → (∀ x ∈ others, Built (.expr x)) →
    Built (.expr (e.concatSeparated separator others place))
  | parenthesis {e : Expr} (place : Place) : Built (.expr e) → Built (.expr (e.parenthesis place))
  | unary {f} {e : Expr} (place : Place) : f ∈ Expr.unaryFunctions → Built (.expr e) →
    Built (.expr (f e place))
  | withOperand {f} {e r : Expr} {v : Operand} {place : Place} : f ∈ Expr.operandFunctions →
    Built (.expr e) → Built v → f e v place = .ok r → Built (.expr r)
  | withOperands {f} {e r : Expr} {v w : Operand} {place : Place} :
    f ∈ Expr.twoOperandFunctions → Built (.expr e) → Built v → Built w →
    f e v w place = .ok r → Built (.expr r)
  | withNumber {f} {e : Expr} (n : Int64) (place : Place) : f ∈ Expr.numberFunctions →
    Built (.expr e) → Built (.expr (f e n place))
  | substringWithLength {e : Expr} (start count : Int64) (place : Place) : Built (.expr e) →
    Built (.expr (e.substringWithLength start count place))
  | escape {e : Expr} (c : Char) (place : Place) : Built (.expr e) →
    Built (.expr (e.escape c place))
  | format {e : Expr} (pattern : String) (place : Place) : Built (.expr e) →
    Built (.expr (e.format pattern place))
  | convertTo {e : Expr} (dest : DataType) (place : Place) : Built (.expr e) →
    Built (.expr (e.convertTo dest none place))
  | decode {e r : Expr} {pairs : List (Operand × Operand)} {otherwise : Option Operand}
    {t : DataType} {place : Place} : Built (.expr e) → (∀ x ∈ pairs, Built x.1) →
    (∀ x ∈ pairs, Built x.2) → (∀ v ∈ otherwise, Built v) →
    e.decode pairs otherwise t place = .ok r → Built (.expr r)
  | named {e : Expr} (name : String) (place : Place) : Built (.expr e) →
    Built (.expr (e.named name place))
  | withAttribute {e : Expr} (key value : String) : Built (.expr e) →
    Built (.expr (e.withAttribute key value))

namespace Expr

theorem eq_of_check {x : Except ExprError Unit} {e r : Expr}
    (h : (do x; return e : Except ExprError Expr) = .ok r) : r = e := by
  obtain ⟨_, _, h⟩ := exists_of_bind_eq_ok h
  exact (Except.ok.inj h).symm

theorem eq_of_constant {v : Value} {t : DataType} {place : Place} {r : Expr}
    (h : constant v t place = .ok r) : r = ofNode (.constant v t) place := eq_of_check h

theorem eq_of_constantFor {c r : Expr} {v : Value} {place : Place}
    (h : constantFor c v place = .ok r) : r = ofNode (.constantFor c v) place := eq_of_check h

theorem eq_of_arith {e r : Expr} {op : Operator} {v : Operand} {place : Place}
    (h : e.arith op v place = .ok r) : r = ofNode (.arith e op v) place := eq_of_check h

theorem negated?_eq_some {x w : Operand} (h : negated? x = some w) :
    ∃ n, x = .value (.int n) ∧ n < 0 ∧ n ≠ Int64.minValue ∧ w = .value (.int (-n)) := by
  unfold negated? at h
  split at h
  next n =>
    obtain ⟨⟨hn, hm⟩, hw⟩ := Option.ite_none_right_eq_some.1 h
    cases hw
    exact ⟨n, rfl, hn, hm, rfl⟩
  next => cases h

/-- The operand of arithmetic is the one given, or the opposite of the number given. -/
theorem exists_arith_of_mem {f} (hf : f ∈ operations) {e r : Expr} {v : Operand} {place : Place}
    (h : f e v place = .ok r) : ∃ op w, (w = v ∨ negated? v = some w) ∧
      r = ofNode (.arith e op w) place := by
  simp only [operations, List.mem_cons, List.not_mem_nil, or_false] at hf
  rcases hf with rfl | rfl | rfl | rfl
  · unfold plus at h
    split at h
    next w hw => exact ⟨_, w, .inr hw, eq_of_arith h⟩
    next => exact ⟨_, v, .inl rfl, eq_of_arith h⟩
  · unfold minus at h
    split at h
    next w hw => exact ⟨_, w, .inr hw, eq_of_arith h⟩
    next => exact ⟨_, v, .inl rfl, eq_of_arith h⟩
  · exact ⟨_, v, .inl rfl, eq_of_arith h⟩
  · exact ⟨_, v, .inl rfl, eq_of_arith h⟩

def IsFunction (e : Expr) (params : List Operand) (r : Expr) : Prop :=
  ∃ p type update t place, p.takesOperand = true ∧
    r = ofNode (.phrase e p params type update t) place

namespace IsFunction

variable {e r : Expr} {place : Place}

theorem of_phrase {p : Phrase} {params : List Operand} {type : DataType}
    {update : Option Column} {t : Option DataType}
    (h : e.phrase p params type update t place = .ok r) : IsFunction e params r := by
  rw [phrase] at h
  cases hp : p.takesOperand with
  | false =>
    rw [hp] at h
    cases h
  | true =>
    rw [hp] at h
    exact ⟨p, type, update, t, place, hp, eq_of_check h⟩

theorem of_mem_unary {f} (hf : f ∈ unaryFunctions) (e : Expr) (place : Place) :
    IsFunction e [] (f e place) := by
  simp only [unaryFunctions, List.mem_cons, List.not_mem_nil, or_false] at hf
  rcases hf with rfl | rfl | rfl | rfl | rfl | rfl | rfl | rfl | rfl | rfl | rfl | rfl | rfl | rfl |
    rfl | rfl | rfl | rfl | rfl <;>
  exact ⟨_, _, _, _, place, rfl, rfl⟩

theorem of_mem_number {f} (hf : f ∈ numberFunctions) (e : Expr) (n : Int64) (place : Place) :
    IsFunction e [.ofInt n] (f e n place) := by
  simp only [numberFunctions, List.mem_cons, List.not_mem_nil, or_false] at hf
  rcases hf with rfl | rfl | rfl <;> exact ⟨_, _, _, _, place, rfl, rfl⟩

theorem of_mem_operand {f} (hf : f ∈ operandFunctions) {v : Operand}
    (h : f e v place = .ok r) : IsFunction e [v] r := by
  simp only [operandFunctions, List.mem_cons, List.not_mem_nil, or_false] at hf
  rcases hf with rfl | rfl | rfl <;> exact of_phrase h

theorem of_mem_twoOperand {f} (hf : f ∈ twoOperandFunctions) {v w : Operand}
    (h : f e v w place = .ok r) : IsFunction e [v, w] r := by
  simp only [twoOperandFunctions, List.mem_cons, List.not_mem_nil, or_false] at hf
  rcases hf with rfl | rfl
  · exact of_phrase h
  · obtain ⟨_, _, h⟩ := exists_of_bind_eq_ok h
    exact of_phrase h

end IsFunction

theorem exists_of_front {v : Operand} {t : DataType} {place : Place} {r : Expr}
    (h : front v t place = .ok r) : v = .expr r ∨
      ∃ c type, v = .value c ∧ r = ofNode (.constant c type) place.part := by
  cases v with
  | expr e =>
    cases h
    exact .inl rfl
  | value c => exact .inr ⟨c, _, rfl, eq_of_constant h⟩
  | list _ => cases h

theorem exists_of_prepend {e r : Expr} {v : Operand} {place : Place}
    (h : e.prepend v place = .ok r) : ∃ left, front v e.dataType place = .ok left ∧
      (r = ofNode (.concat left (.expr e)) place ∨
        r = ofNode (.arith left .plus (.expr e)) place) := by
  obtain ⟨left, hl, h⟩ := exists_of_bind_eq_ok h
  refine ⟨left, hl, ?_⟩
  split at h
  · cases h
    exact .inl rfl
  · exact .inr (eq_of_arith h)

theorem mem_of_addBranch {ks rs : List Operand} {key result : Operand} {bs : List Branch}
    (hk : key ∈ ks) (hr : result ∈ rs) (hb : ∀ b ∈ bs, b.key ∈ ks ∧ b.result ∈ rs) :
    ∀ b ∈ addBranch key result bs, b.key ∈ ks ∧ b.result ∈ rs := by
  induction bs with
  | nil => simpa [addBranch, Branch.key, Branch.result] using ⟨hk, hr⟩
  | cons b bs ih =>
    obtain ⟨h, hs⟩ := List.forall_mem_cons.1 hb
    rw [addBranch]
    split
    · exact List.forall_mem_cons.2 ⟨⟨h.1, hr⟩, hs⟩
    · exact List.forall_mem_cons.2 ⟨h, ih hs⟩

theorem mem_of_checkBranches {k t : DataType} {ks rs : List Operand}
    {pairs : List (Operand × Operand)} (hp : ∀ x ∈ pairs, x.1 ∈ ks ∧ x.2 ∈ rs)
    {bs branches : List Branch} (hb : ∀ b ∈ bs, b.key ∈ ks ∧ b.result ∈ rs)
    (h : pairs.foldlM (checkBranch k t) bs = .ok branches) :
    ∀ b ∈ branches, b.key ∈ ks ∧ b.result ∈ rs := by
  induction pairs generalizing bs with
  | nil =>
    cases h
    exact hb
  | cons x pairs ih =>
    obtain ⟨hx, hp⟩ := List.forall_mem_cons.1 hp
    rw [List.foldlM_cons] at h
    obtain ⟨next, hc, h⟩ := exists_of_bind_eq_ok h
    obtain ⟨_, _, hc⟩ := exists_of_bind_eq_ok hc
    obtain ⟨_, _, hc⟩ := exists_of_bind_eq_ok hc
    cases hc
    exact ih hp (mem_of_addBranch hx.1 hx.2 hb) h

theorem exists_of_decode {e r : Expr} {pairs : List (Operand × Operand)}
    {otherwise : Option Operand} {t : DataType} {place : Place}
    (h : e.decode pairs otherwise t place = .ok r) : ∃ branches : List Branch,
      (∀ b ∈ branches, b.key ∈ pairs.map (·.1) ∧ b.result ∈ pairs.map (·.2)) ∧
        r = ofNode (.decode e branches otherwise t) place := by
  obtain ⟨branches, hb, h⟩ := exists_of_bind_eq_ok h
  refine ⟨branches, ?_, ?_⟩
  · refine mem_of_checkBranches (fun x hx => ?_) (by simp) hb
    exact ⟨List.mem_map_of_mem hx, List.mem_map_of_mem hx⟩
  · cases otherwise with
    | none => exact (Except.ok.inj h).symm
    | some v => exact eq_of_check h

theorem function_eq_ok_iff {e r : Expr} {template : String} {update : Option Column}
    {aggregate : Bool} {type : Option DataType} {place : Place} :
    e.function template update aggregate type place = .ok r ↔
    ∃ a b, template.toList = a ++ '?' :: b ∧ '?' ∉ a ∧
      ofNode (.wrap e (String.ofList a) (String.ofList b) update aggregate type) place = r := by
  by_cases h : '?' ∈ template.toList
  · obtain ⟨a, b, he, ha⟩ := List.eq_append_cons_of_mem h
    rw [function, he, Text.splitFirst_append_cons ha]
    constructor
    · intro hr
      exact ⟨a, b, rfl, ha, Except.ok.inj hr⟩
    · rintro ⟨a', b', he', ha', rfl⟩
      have hs := Text.splitFirst_append_cons ha b
      rw [he', Text.splitFirst_append_cons ha'] at hs
      cases hs
      rfl
  · constructor
    · intro hr
      rw [function] at hr
      split at hr
      next hs =>
        exact absurd (by simp [Text.eq_append_of_splitFirst hs]) h
      next => cases hr
    · rintro ⟨a, b, he, -⟩
      exact absurd (by simp [he]) h

end Expr

end ColumnSql
