import ColumnSql.Proofs.Expr.Built
import ColumnSql.Proofs.Lexical.Arithmetic
import ColumnSql.Proofs.Lexical.Identifier

/-! Remainders of whole numbers. Arithmetic is written as a chain of words with operators between
them, without parentheses, so that it depends on what is around it whether it stays together. -/

namespace ColumnSql

open Lexical

/-- The name is in quotes, or it is one word without them. -/
def IsWordName (name : String) : Prop :=
  Identifier.needsQuotes name = true ∨ name ≠ "" ∧ HasNoQuotes name

/-- Arithmetic of whole numbers: columns, constants that are not negative, and operations on them. -/
inductive Arithmetic : Operand → Prop
  | column {c : Column} (place : Place) : c.dataType.isWhole = true → IsWordName c.name →
    (∀ table ∈ c.table, IsWordName table) → Arithmetic (.expr (.column c place))
  | value {n : Int64} : 0 ≤ n → Arithmetic (.value (.int n))
  | constant {n : Int64} {t : DataType} {place : Place} {r : Expr} : 0 ≤ n → t.isWhole = true →
    Expr.constant (.int n) t place = .ok r → Arithmetic (.expr r)
  | operation {f} {e r : Expr} {v : Operand} {place : Place} : f ∈ Expr.operations →
    Arithmetic (.expr e) → Arithmetic v → f e v place = .ok r → Arithmetic (.expr r)

theorem DataType.isNumeric_of_isWhole {t : DataType} (h : t.isWhole = true) :
    t.isNumeric = true := by
  cases t <;> first | rfl | cases h

namespace Lexical

theorem separator?_eq_none {c : Char} (h : c ∉ Identifier.illegal) : separator? c = none := by
  unfold separator?
  split <;> first | rfl | exact absurd (by decide) h

theorem exists_separator (op : Operator) :
    ∃ c, op.symbol.toList = [c] ∧ separator? c = some [.mark (.arith op)] := by
  cases op <;> exact ⟨_, rfl, rfl⟩

variable (b : Builtin)

theorem isWord_name {name : String} (h : IsWordName name) :
    IsWord b.quotes ((Target.mk (some b.dialect)).name name).toList := by
  cases hn : Identifier.needsQuotes name with
  | true =>
    have hs : (Target.mk (some b.dialect)).name name =
        Text.quoted b.quotes.left b.quotes.right name := (b.name_eq name).trans (if_pos hn)
    rw [hs]
    exact ⟨.quoted name, by simp [Text.quoted]⟩
  | false =>
    have hs : (Target.mk (some b.dialect)).name name = name :=
      (b.name_eq name).trans (if_neg (by simp [hn]))
    obtain ⟨hne, hq⟩ := h.resolve_left (by simp [hn])
    rw [Identifier.needsQuotes, Bool.or_eq_false_iff, List.any_eq_false] at hn
    have hi (c) (hc : c ∈ name.toList) : c ∉ Identifier.illegal := by simpa using hn.2 c hc
    have hp : Plain name.toList := fun c hc => by
      have := hi c hc
      refine isPlain_iff.2 ⟨?_, ?_, ?_, hq c hc⟩ <;> rintro rfl <;> exact this (by decide)
    rw [hs]
    exact ⟨.ofPlain hp fun c hc => separator?_eq_none (hi c hc), by simpa using hne⟩

theorem isWord_column {c : Column} (hc : IsWordName c.name)
    (ht : ∀ table ∈ c.table, IsWordName table) (ctx : Context) :
    IsWord b.quotes (c.sql ⟨some b.dialect⟩ ctx).toList := by
  have hn := isWord_name b hc
  unfold Column.sql
  split
  next table _ htable =>
    have h := (isWord_name b (ht table htable)).isPart.append_point hn.isPart
    rw [String.toList_append, String.toList_append, List.append_assoc]
    exact ⟨h, by simp⟩
  next => exact hn

theorem isWord_natText (q : Quotes) (n : Nat) : IsWord q (Decimal.natText n) := by
  have hd (c) (hc : c ∈ Decimal.natText n) : c.isDigit = true :=
    Nat.isDigit_of_mem_toDigits (by decide) (by decide) hc
  have hs (c) (hc : c ∈ Decimal.natText n) : separator? c = none := by
    refine separator?_eq_none fun hi => ?_
    have hn : Identifier.illegal.any Char.isDigit = false := by decide
    exact List.any_eq_false.1 hn c hi (hd c hc)
  exact ⟨.ofPlain (plain_of_class (by decide) hd) hs, Nat.toDigits_ne_nil⟩

theorem literal_int {n : Int64} (hn : 0 ≤ n) {t : DataType} (ht : t.isNumeric = true) :
    b.dialect.literal (.int n) t = String.ofList (Decimal.natText n.toInt.natAbs) := by
  have hi : Decimal.intText n.toInt = Decimal.natText n.toInt.natAbs :=
    if_neg (Int.not_lt.2 (Int64.le_iff_toInt_le.1 hn))
  have hs : b.dialect.literal (.int n) t = String.ofList (Decimal.intText n.toInt) := by
    cases t <;> first | rfl | cases ht
  rw [hs, hi]

end Lexical

namespace Arithmetic

variable {v : Operand} {e : Expr}

theorem negated?_eq_none (h : Arithmetic v) : Expr.negated? v = none := by
  cases h with
  | value hn => exact if_neg fun h => Int64.not_lt.2 hn h.1
  | _ => rfl

/-- No sign is turned, so that the operand is the one given. -/
theorem exists_arith {f} (hf : f ∈ Expr.operations) {r : Expr} {place : Place}
    (hv : Arithmetic v) (h : f e v place = .ok r) :
    ∃ op, r = .ofNode (.arith e op v) place := by
  obtain ⟨op, w, hw | hw, rfl⟩ := Expr.exists_arith_of_mem hf h
  · exact ⟨op, by rw [hw]⟩
  · cases hv.negated?_eq_none.symm.trans hw

theorem isNumeric (h : Arithmetic (.expr e)) : e.dataType.isNumeric = true := by
  cases h with
  | column _ hc => exact DataType.isNumeric_of_isWhole hc
  | constant _ ht hr =>
    rw [Expr.eq_of_constant hr]
    exact DataType.isNumeric_of_isWhole ht
  | operation hf _ hv hr =>
    obtain ⟨op, rfl⟩ := exists_arith hf hv hr
    rfl

/-- Arithmetic is written as a chain, whatever type of numbers the constants are written as. -/
theorem exists_chain (b : Builtin) (h : Arithmetic v) (ctx : Context) :
    ∃ c : Chain, ∀ (type : DataType) (separator : String), type.isNumeric = true →
      Cuts b.quotes (v.sql type separator ⟨some b.dialect⟩ ctx).toList c.symbols := by
  have hi {n : Int64} (hn : 0 ≤ n) {type : DataType} (ht : type.isNumeric = true) :
      Cuts b.quotes (b.dialect.literal (.int n) type).toList
        (Chain.ofWord (Decimal.natText n.toInt.natAbs)).symbols := by
    rw [literal_int b hn ht, String.toList_ofList]
    exact (isWord_natText b.quotes _).cuts_chain
  induction h generalizing ctx with
  | @column c place _ hn ht =>
    refine ⟨.ofWord (c.sql ⟨some b.dialect⟩ ctx).toList, fun _ _ _ => ?_⟩
    rw [Operand.sql_expr, Expr.column, Expr.ofNode, Expr.sql_mk, Node.sql_column]
    exact (isWord_column b hn ht ctx).cuts_chain
  | value hn => exact ⟨_, fun _ _ ht => hi hn ht⟩
  | @constant n t place r hn ht hr =>
    refine ⟨.ofWord (Decimal.natText n.toInt.natAbs), fun _ _ _ => ?_⟩
    rw [Expr.eq_of_constant hr, Operand.sql_expr, Expr.ofNode, Expr.sql_mk, Node.sql_constant]
    exact hi hn (DataType.isNumeric_of_isWhole ht)
  | @operation f e r v place hf he hv hr ihe ihv =>
    -- neither side is in parentheses, so that the chains of both make one
    obtain ⟨op, rfl⟩ := exists_arith hf hv hr
    obtain ⟨c, hc⟩ := ihe ctx.inner
    obtain ⟨d, hd⟩ := ihv ctx.inner
    obtain ⟨x, hx, ho⟩ := exists_separator op
    refine ⟨c.append op d, fun _ _ _ => ?_⟩
    have hc := hc e.dataType "" he.isNumeric
    have hd := hd e.dataType op.symbol he.isNumeric
    rw [Operand.sql_expr] at hc
    rw [Operand.sql_expr, Expr.ofNode, Expr.sql_mk, Node.sql_arith, String.toList_append,
      String.toList_append, hx, List.append_assoc, Chain.symbols_append]
    exact hc.append ho hd

end Arithmetic

/-- whether a remainder in the dialect keeps its operands apart from each other and from itself -/
def Builtin.KeepsOperands (b : Builtin) (dividend divisor : Lexical.Term) : Prop :=
  match b with
  | sqlServer => divisor.root = none
  | sqlite => divisor.root = none ∧ dividend.isSum = false
  | _ => True

def Builtin.remainder (b : Builtin) (dividend divisor : String) : String :=
  match b with
  | sqlServer => "((" ++ dividend ++ ") % " ++ divisor ++ ")"
  | sqlite => "(" ++ dividend ++ " % " ++ divisor ++ ")"
  | _ => "mod(" ++ dividend ++ ", " ++ divisor ++ ")"

theorem Builtin.filled_modulo (b : Builtin) (arg : Template.Placeholder → String) (x : String) :
    Template.filled ((Target.mk (some b.dialect)).phrase .modulo) arg x =
      b.remainder x (arg ⟨some 0, none⟩) := by
  have hn {s : List Char} (h : '\x7b' ∉ s) := Template.not_hasPlaceholder_of_not_mem h
  have h {template : String} (a m : List Char)
      (ht : template.toList = a ++ '?' :: (m ++ '\x7b' :: '0' :: '\x7d' :: [')'])) (hq : '?' ∉ a)
      (ha : '\x7b' ∉ a) (hm : '\x7b' ∉ m) : Template.filled template arg x =
        String.ofList a ++ x ++ String.ofList m ++ arg ⟨some 0, none⟩ ++ ")" :=
    Template.filled_place ht hq (hn ha) (hn hm) (hn (by decide)) x
  cases b with
  | sqlServer => exact h "((".toList ") % ".toList rfl (by decide) (by decide) (by decide)
  | sqlite => exact h "(".toList " % ".toList rfl (by decide) (by decide) (by decide)
  | generic | oracle | mySql | postgres | hsql =>
    exact h "mod(".toList ", ".toList rfl (by decide) (by decide) (by decide)

theorem Builtin.exists_read_remainder (b : Builtin) {x y : String} {c d : Chain}
    (hx : Cuts b.quotes x.toList c.symbols) (hy : Cuts b.quotes y.toList d.symbols) :
    ∃ whole, read b.quotes (b.remainder x y) = some whole ∧
      (whole = .apply .modulo c.term d.term ↔ b.KeepsOperands c.term d.term) := by
  cases b with
  | sqlServer =>
    have h := Level.complete_modulo_iff (.inl rfl) c.term d
    exact ⟨_, read_group_modulo hx hy, h.trans (and_iff_right rfl)⟩
  | sqlite =>
    have h := Level.complete_modulo_iff (Level.isSound_reach c).1.sum
      ((Level.start.reach c).1.product (Level.start.reach c).2) d
    rw [Level.sum_reach_eq_id_iff, and_comm] at h
    exact ⟨_, read_modulo hx hy, h⟩
  | generic | oracle | mySql | postgres | hsql =>
    exact ⟨_, read_call hx hy, iff_of_true rfl trivial⟩

theorem Expr.modulo_eq_ok (e : Expr) {v : Operand} (h : Arithmetic v) (place : Place) :
    e.modulo v place =
      .ok (ofNode (.phrase e .modulo [v] .integer e.updateColumn none) place) := by
  cases h <;> rfl

/-- The remainder of arithmetic is written, and with it the dividend and the divisor, as texts that
are terms. Its term is the remainder of these two in dialects with a function for it. In those with
an operator it is only if the divisor is one word and, where no parentheses are written, the
dividend is no sum. -/
theorem sql_modulo_operands (b : Builtin) {e : Expr} {v : Operand} (he : Arithmetic (.expr e))
    (hv : Arithmetic v) (place : Place) (ctx : Context) :
    let t : Target := ⟨some b.dialect⟩
    let read := Lexical.read b.quotes
    ∃ r dividend divisor whole, e.modulo v place = .ok r ∧
      read (e.sql t ctx.inner) = some dividend ∧
      read (v.sql .integer ", " t ctx.inner) = some divisor ∧
      read (r.sql t ctx) = some whole ∧
      (whole = .apply .modulo dividend divisor ↔ b.KeepsOperands dividend divisor) := by
  intro t read
  obtain ⟨c, hc⟩ := he.exists_chain b ctx.inner
  obtain ⟨d, hd⟩ := hv.exists_chain b ctx.inner
  have hc := hc .integer "" rfl
  have hd := hd .integer ", " rfl
  rw [Operand.sql_expr] at hc
  obtain ⟨whole, hw, hk⟩ := b.exists_read_remainder hc hd
  refine ⟨_, _, _, whole, e.modulo_eq_ok hv place, read_chain hc, read_chain hd, ?_, hk⟩
  rw [Expr.ofNode, Expr.sql_mk, Node.sql_phrase, b.filled_modulo]
  exact hw

theorem sql_modulo_operands_sum :
    let sql (e : Expr) := e.sql ⟨some Builtin.sqlServer.dialect⟩ .standard
    let read := Lexical.read Builtin.sqlServer.quotes
    let a : Expr := .column ⟨none, "A", .integer⟩ [0]
    let b : Expr := .column ⟨none, "B", .integer⟩ [1]
    let d : Expr := .ofNode (.arith b .plus (.ofInt 1)) [2]
    Arithmetic (.expr a) ∧ Arithmetic (.expr d) ∧ ∃ r dividend divisor whole,
      a.modulo (.expr d) [3] = .ok r ∧ read (sql a) = some dividend ∧
      read (sql d) = some divisor ∧ read (sql r) = some whole ∧
      whole ≠ .apply .modulo dividend divisor := by
  intro sql read a b d
  have hn (name : String) (h : name ≠ "" ∧ HasNoQuotes name) : IsWordName name := .inr h
  have ha : Arithmetic (.expr a) := .column _ rfl (hn _ (by decide)) (by simp)
  have hb : Arithmetic (.expr b) := .column _ rfl (hn _ (by decide)) (by simp)
  have hd : Arithmetic (.expr d) :=
    .operation (f := Expr.plus) (by simp [Expr.operations]) hb (.value (n := 1) (by decide)) rfl
  obtain ⟨r, dividend, divisor, whole, hr, he, hv, hw, hk⟩ :=
    sql_modulo_operands .sqlServer ha hd [3] .standard
  refine ⟨ha, hd, r, dividend, divisor, whole, hr, he, hv, hw, fun h => ?_⟩
  have hs : read (sql d) =
      some (.apply (.arith .plus) (.word ['B']) (.word ['1'])) := by decide +kernel
  have hr : divisor.root = none := hk.1 h
  cases hv.symm.trans hs
  cases hr

/-- A sum as divisor is regrouped in one dialect, and a sum as dividend in another. -/
theorem sql_modulo_regrouped :
    let sql (b : Builtin) (e : Expr) := e.sql ⟨some b.dialect⟩ .standard
    let a : Expr := .column ⟨none, "A", .integer⟩ [0]
    let b : Expr := .column ⟨none, "B", .integer⟩ [1]
    let word (s : String) : Lexical.Term := .word s.toList
    let plus := Lexical.Term.apply (.arith .plus)
    let modulo := Lexical.Term.apply .modulo
    (∃ d r, b.plus (.ofInt 1) [2] = .ok d ∧ a.modulo (.expr d) [3] = .ok r ∧
      read Builtin.generic.quotes (sql .generic r) =
        some (modulo (word "A") (plus (word "B") (word "1"))) ∧
      sql .sqlServer r = "((A) % B+1)" ∧ read Builtin.sqlServer.quotes (sql .sqlServer r) =
        some (plus (modulo (word "A") (word "B")) (word "1"))) ∧
    ∃ e r, a.plus (.ofInt 1) [2] = .ok e ∧ e.modulo (.ofInt 3) [3] = .ok r ∧
      read Builtin.generic.quotes (sql .generic r) =
        some (modulo (plus (word "A") (word "1")) (word "3")) ∧
      sql .sqlite r = "(A+1 % 3)" ∧ read Builtin.sqlite.quotes (sql .sqlite r) =
        some (plus (word "A") (modulo (word "1") (word "3"))) :=
  ⟨⟨_, _, rfl, rfl, by decide +kernel⟩, ⟨_, _, rfl, rfl, by decide +kernel⟩⟩

end ColumnSql
