import ColumnSql.Proofs.Expr.OperandTexts
import ColumnSql.Proofs.Expr.TextConstant
import ColumnSql.Proofs.Literal.Injection

/-! Concatenations in the built-in dialects: the texts that are put together, in their order, and
what stands between them. -/

namespace ColumnSql

/-- texts put together, by an operator between them or else as the arguments of one function -/
def concatenation (operator : Option String) (texts : List String) : String :=
  match operator with
  | some operator => operator.intercalate texts
  | none => "concat(" ++ ", ".intercalate texts ++ ")"

/-- the operator between an expression and what is appended to it, if it is no function -/
def Builtin.concatOperator : Builtin → Option String
  | generic | oracle | postgres | sqlite => some " || "
  | sqlServer => some " + "
  | mySql | hsql => none

def Builtin.concatAllOperator : Builtin → Option String
  | oracle | sqlite => some " || "
  | generic | sqlServer | mySql | postgres | hsql => none

theorem count_join_map (c : Char) (s : String) (l : List String) :
    (String.join (l.map (s ++ ·))).toList.count c =
      l.length * s.toList.count c + (String.join l).toList.count c := by
  induction l with
  | nil => simp
  | cons x r ih =>
    rw [List.map_cons, String.join_cons, String.join_cons]
    simp only [String.toList_append, List.count_append, ih, List.length_cons, Nat.succ_mul]
    omega

theorem count_intercalate (c : Char) (separator s : String) (l : List String) :
    (separator.intercalate (s :: l)).toList.count c =
      s.toList.count c + l.length * separator.toList.count c + (String.join l).toList.count c := by
  rw [← append_join_eq_intercalate, String.toList_append, List.count_append, count_join_map,
    Nat.add_assoc]

/-- Whatever stands between the texts has blanks, so that these tell how many texts there are. -/
theorem Builtin.exists_count_concatenation (b : Builtin) : ∃ k, 0 < k ∧ ∀ s l,
    (concatenation b.concatOperator (s :: l)).toList.count ' ' =
      s.toList.count ' ' + l.length * k + (String.join l).toList.count ' ' := by
  cases b with
  | generic | oracle | postgres | sqlite => exact ⟨2, by decide, count_intercalate ' ' " || "⟩
  | sqlServer => exact ⟨2, by decide, count_intercalate ' ' " + "⟩
  | mySql | hsql =>
    refine ⟨1, by decide, fun s l => ?_⟩
    have h := count_intercalate ' ' ", " s l
    simp only [concatenation, concatOperator, String.toList_append, List.count_append, h]
    simp

theorem Padded.commas_eq_iff {a b : List String} {n : Nat} (h : Padded a b n) (ha : 0 < a.length)
    (s : String) :
    s ++ " || " ++ ", ".intercalate a = " || ".intercalate (s :: b) ↔ n = 0 ∧ b.length = 1 := by
  obtain ⟨x, r, rfl⟩ := List.exists_cons_of_length_pos ha
  have hl := h.length_eq
  have hj := h.join_eq
  constructor
  · intro he
    have hc (c : Char) := congrArg (·.toList.count c) he
    simp only [String.toList_append, List.count_append, count_intercalate, ← hj,
      String.join_cons] at hc
    -- bars tell how many operators there are, blanks how many commas
    have hb := hc '|'
    have hs := hc ' '
    simp at hb hs hl
    omega
  · rintro ⟨rfl, hn⟩
    obtain ⟨y, rfl⟩ := List.length_eq_one_iff.1 hn
    rw [h.eq_of_zero]
    simp

namespace Template

variable {template : String} (s : String) (f : String → String)

theorem concatenated_operator (h : Text.splitFirst ['?'] template.toList = none) :
    concatenated template s f = s ++ template ++ f template := by
  rw [concatenated, h]

theorem concatenated_places {before rest middle after : List Char}
    (h : Text.splitFirst ['?'] template.toList = some (before, rest))
    (h' : Text.splitFirst ['\x7b', '0', '\x7d'] rest = some (middle, after)) :
    concatenated template s f = String.ofList before ++ s ++ String.ofList middle ++ f ", " ++
      String.ofList after := by
  simp only [concatenated, h, h']

end Template

/-- In Postgres the operator is a template with places, and so the items of a list have commas
between them. -/
theorem Builtin.sql_concat (b : Builtin) (left : Expr) (v : Operand) (ctx : Context) :
    let t : Target := ⟨some b.dialect⟩
    let first := left.sql t ctx.inner
    let texts := v.argumentTexts .varchar t ctx.inner
    (Node.concat left v).sql t ctx =
      if b = .postgres then first ++ " || " ++ ", ".intercalate texts
      else concatenation b.concatOperator (first :: texts) := by
  intro t first texts
  have hs (separator : String) :=
    Operand.append_separator_sql .varchar t ctx.inner first separator v
  rw [Node.sql_concat]
  cases b with
  | generic | oracle | sqlite =>
    change Template.concatenated " || " _ _ = _
    rw [Template.concatenated_operator _ _ (by decide)]
    exact hs " || "
  | sqlServer =>
    change Template.concatenated " + " _ _ = _
    rw [Template.concatenated_operator _ _ (by decide)]
    exact hs " + "
  | mySql | hsql =>
    have h : Text.splitFirst ['?'] "concat(?, {0})".toList =
        some ("concat(".toList, ", {0})".toList) := by decide
    have h' : Text.splitFirst ['\x7b', '0', '\x7d'] ", {0})".toList =
        some (", ".toList, ")".toList) := by decide
    change Template.concatenated "concat(?, {0})" first _ =
      "concat(" ++ ", ".intercalate (first :: texts) ++ ")"
    rw [Template.concatenated_places _ _ h h', ← hs]
    simp only [String.ofList_toList, String.append_assoc]
  | postgres =>
    have h : Text.splitFirst ['?'] "? || {0}".toList = some ([], " || {0}".toList) := by decide
    have h' : Text.splitFirst ['\x7b', '0', '\x7d'] " || {0}".toList =
        some (" || ".toList, []) := by decide
    change Template.concatenated "? || {0}" first _ = first ++ " || " ++ ", ".intercalate texts
    rw [Template.concatenated_places _ _ h h', ← Operand.sql_eq_intercalate]
    simp

/-- What is appended to an expression stands after it in one concatenation, each item of a list with
the operator of the dialect in front or as an argument of its function, exactly if no list in it is
empty and, in Postgres, if it is one item. There the items have commas between them. An empty list
stands as an empty text. -/
theorem sql_append_list (b : Builtin) (left : Expr) (v : Operand) (place : Place) (ctx : Context) :
    let t : Target := ⟨some b.dialect⟩
    let first := left.sql t ctx.inner
    let texts := v.argumentTexts .varchar t ctx.inner
    let sql := (left.append v place).sql t ctx
    sql = (if b = .postgres then first ++ " || " ++ ", ".intercalate texts
      else concatenation b.concatOperator (first :: texts)) ∧
    (sql = concatenation b.concatOperator (first :: v.leafTexts .varchar t ctx.inner) ↔
      v.emptyLists = 0 ∧ (b = .postgres → v.leaves.length = 1)) := by
  intro t first texts sql
  have hs : sql = if b = .postgres then first ++ " || " ++ ", ".intercalate texts
      else concatenation b.concatOperator (first :: texts) := b.sql_concat left v ctx
  have hp : Padded texts (v.leafTexts .varchar t ctx.inner) v.emptyLists :=
    v.padded_argumentTexts .varchar t ctx.inner
  refine ⟨hs, ?_⟩
  rw [hs]
  split
  next hb =>
    subst hb
    have hn : (v.leafTexts .varchar t ctx.inner).length = v.leaves.length := List.length_map ..
    rw [← hn]
    exact (hp.commas_eq_iff (v.argumentTexts_length_pos .varchar t ctx.inner) first).trans
      (and_congr_right' ⟨fun h _ => h, fun h => h rfl⟩)
  next hb =>
    obtain ⟨k, hk, hc⟩ := b.exists_count_concatenation
    constructor
    · intro h
      -- an empty text is seen by the blanks that it has with it
      have h := congrArg (·.toList.count ' ') h
      simp only [hc, hp.join_eq, hp.length_eq, Nat.add_mul] at h
      have hz : v.emptyLists * k = 0 := by omega
      exact ⟨(Nat.mul_eq_zero.1 hz).resolve_right (Nat.ne_of_gt hk), fun h => absurd h hb⟩
    · rintro ⟨he, -⟩
      rw [he] at hp
      rw [hp.eq_of_zero]

/-- In Postgres the items of a list are no more part of the concatenation. -/
theorem sql_append_list_commas :
    let t : Target := ⟨some Builtin.postgres.dialect⟩
    let a : Expr := .column ⟨none, "A", .varchar⟩ [0]
    let v : Operand := .list [.ofText "x", .ofText "y"]
    let whole := concatenation Builtin.postgres.concatOperator
      (a.sql t Context.standard.inner :: v.leafTexts .varchar t Context.standard.inner)
    (a.append v [1]).sql t .standard = "A || 'x', 'y'" ∧ whole = "A || 'x' || 'y'" ∧
      (a.append v [1]).sql t .standard ≠ whole := by
  decide +kernel

def separated (separator : Option String) (texts : List String) : List String :=
  match separator with
  | none => texts
  | some s => texts.intersperse s

theorem append_join_separated (connector separator s : String) (l : List String) :
    s ++ String.join (l.map fun x => connector ++ (separator ++ connector) ++ x) =
      connector.intercalate ((s :: l).intersperse separator) := by
  induction l generalizing s with
  | nil => simp
  | cons x r ih =>
    have hx : (x :: r).intersperse separator ≠ [] := by cases r <;> simp
    rw [List.intersperse_cons_cons, String.intercalate_cons_cons,
      String.intercalate_cons_of_ne_nil hx, ← ih x, List.map_cons, String.join_cons]
    simp only [String.append_assoc]

theorem Expr.append_othersSql (s : String) (es : List Expr) (separator : Option String) (t : Target)
    (ctx : Context) (connector : String) :
    s ++ othersSql es separator t ctx connector =
      connector.intercalate (separated (separator.map fun x => t.literal (.text x) .varchar)
        (s :: es.map fun e => e.sql t ctx)) := by
  cases separator with
  | none =>
    rw [Option.map_none, separated, ← append_join_eq_intercalate, List.map_map]
    simp [othersSql, Target.separatorText, Function.comp_def]
  | some x =>
    rw [Option.map_some, separated, ← append_join_separated, List.map_map]
    rfl

theorem Builtin.readText_literal (b : Builtin) (s : String) :
    Lexical.readText (b.dialect.literal (.text s) .varchar).toList =
      if s = "" then none else some (s.toList, []) := by
  split
  next hs =>
    subst hs
    cases b <;> rfl
  next hs =>
    have h : b.dialect.literal (.text s) .varchar = b.quoteText s := b.literal_text hs (.inl rfl)
    rw [h]
    exact Lexical.readText_quoteText b s

/-- A concatenation of many has the texts of all in their order and, if it has a separator, the
literal of that between each two of them and nowhere else. The literal is one text that reads back
as the separator, except that an empty separator is written as null. -/
theorem sql_concatAll_separated (b : Builtin) (place : Place) (attributes : Attributes) (e : Expr)
    (separator : Option String) (others : List Expr) (ctx : Context) :
    let t : Target := ⟨some b.dialect⟩
    let literal (s : String) := b.dialect.literal (.text s) .varchar
    let texts := (e :: others).map fun x => x.sql t ctx.inner
    (Expr.mk place attributes (.concatAll e separator others)).sql t ctx =
        concatenation b.concatAllOperator (separated (separator.map literal) texts) ∧
      (∀ s, Lexical.readText (literal s).toList = if s = "" then none else some (s.toList, [])) ∧
      literal "" = "null" := by
  intro t literal texts
  have hs (connector : String) := Expr.append_othersSql (e.sql t ctx.inner) others separator t
    ctx.inner connector
  refine ⟨?_, b.readText_literal, ?_⟩
  · rw [Expr.sql_mk, Node.sql_concatAll]
    cases b with
    | oracle | sqlite =>
      have h : Text.splitFirst ['?'] " || ".toList = none := by decide
      change Template.concatenatedAll " || " _ _ = _
      simp only [Template.concatenatedAll, h]
      exact hs " || "
    | generic | sqlServer | mySql | postgres | hsql =>
      have h : Text.splitFirst ['?'] "concat(?)".toList = some ("concat(".toList, ")".toList) := by
        decide
      change Template.concatenatedAll "concat(?)" _ _ = _
      simp only [Template.concatenatedAll, h, String.ofList_toList]
      have ha := String.append_assoc.trans (congrArg ("concat(" ++ ·) (hs ", "))
      exact congrArg (· ++ ")") ha
  · cases b <;> rfl

/-- An empty separator is null, which is no text. -/
theorem sql_concatAll_separated_null :
    let t : Target := ⟨some Builtin.mySql.dialect⟩
    let a : Expr := .column ⟨none, "A", .varchar⟩ [0]
    let b : Expr := .column ⟨none, "B", .varchar⟩ [1]
    (a.concatSeparated "" [b] [2]).sql t .standard = "concat(A, null, B)" ∧
      Lexical.readText "null".toList = none := by
  decide +kernel

end ColumnSql
