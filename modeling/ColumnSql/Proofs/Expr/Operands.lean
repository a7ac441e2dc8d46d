import ColumnSql.Proofs.Expr.Composition

/-! No template drops an operand. Whatever texts a dialect has for its phrases, the SQL of a node
has in it the SQL of each of its operands, in order and each in one piece: where a template has no
place for an operand, that stands before or after the template. So nothing is lost on the way up a
tree either. -/

namespace ColumnSql

/-- `s` has the texts in it, in this order and without overlap. -/
inductive InOrder : List String → String → Prop
  | nil (s : String) : InOrder [] s
  | cons (before text : String) {texts : List String} {s : String} : InOrder texts s →
    InOrder (text :: texts) (before ++ text ++ s)

namespace InOrder

variable {a b : List String} {r s : String}

theorem self (s : String) : InOrder [s] s := by
  simpa using InOrder.cons "" s (.nil "")

theorem before (h : InOrder a s) (r : String) : InOrder a (r ++ s) := by
  cases h with
  | nil => exact .nil _
  | cons r' text h =>
    rw [← String.append_assoc, ← String.append_assoc]
    exact .cons (r ++ r') text h

theorem append (ha : InOrder a r) (hb : InOrder b s) : InOrder (a ++ b) (r ++ s) := by
  induction ha with
  | nil r => exact hb.before r
  | cons r' text _ ih =>
    rw [List.cons_append, String.append_assoc]
    exact .cons r' text ih

theorem after (h : InOrder a r) (s : String) : InOrder a (r ++ s) := by
  simpa using h.append (.nil s)

theorem exists_append (h : InOrder a s) {text : String} (ht : text ∈ a) :
    ∃ before after, s = before ++ text ++ after := by
  induction h with
  | nil => exact absurd ht List.not_mem_nil
  | @cons before x texts s _ ih =>
    rcases List.mem_cons.1 ht with rfl | ht
    · exact ⟨before, s, rfl⟩
    · obtain ⟨b, c, rfl⟩ := ih ht
      exact ⟨before ++ x ++ b, c, by simp only [String.append_assoc]⟩

section

variable {α : Type} {l : List α} {texts : α → List String} {f : α → String}

theorem join (h : ∀ x ∈ l, InOrder (texts x) (f x)) :
    InOrder (l.flatMap texts) (String.join (l.map f)) := by
  induction l with
  | nil => exact .nil _
  | cons x r ih =>
    have hr := ih fun y hy => h y (List.mem_cons_of_mem _ hy)
    rw [List.flatMap_cons, List.map_cons, String.join_cons]
    exact (h x (List.mem_cons_self ..)).append hr

theorem intercalate (separator : String) (h : ∀ x ∈ l, InOrder (texts x) (f x)) :
    InOrder (l.flatMap texts) (separator.intercalate (l.map f)) := by
  cases l with
  | nil => exact .nil _
  | cons x r =>
    have hr : ∀ y ∈ r, InOrder (texts y) (separator ++ f y) :=
      fun y hy => (h y (List.mem_cons_of_mem _ hy)).before separator
    rw [List.flatMap_cons, List.map_cons, ← append_join_eq_intercalate, List.map_map]
    exact (h x (List.mem_cons_self ..)).append (join hr)

end

theorem filled (template : String) (arg : Template.Placeholder → String) (s : String) :
    InOrder [s] (Template.filled template arg s) :=
  ((self s).before _).after _

end InOrder

def Template.connector (template : String) : String :=
  match Text.splitFirst ['?'] template.toList with
  | none => template
  | some _ => ", "

namespace InOrder

theorem concatenated (template left : String) (right : String → String) :
    InOrder [left, right (Template.connector template)]
      (Template.concatenated template left right) := by
  unfold Template.concatenated Template.connector
  cases Text.splitFirst ['?'] template.toList with
  | none => exact ((self left).after _).append (self _)
  | some x =>
    dsimp only
    cases Text.splitFirst ['\x7b', '0', '\x7d'] x.2 with
    | none => exact (((self left).before _).after _).append (self _)
    | some y => exact ((((self left).before _).after _).append (self _)).after _

theorem concatenatedAll (template first : String) {texts : List String} {others : String → String}
    (h : ∀ connector, InOrder texts (others connector)) :
    InOrder (first :: texts) (Template.concatenatedAll template first others) := by
  unfold Template.concatenatedAll
  cases Text.splitFirst ['?'] template.toList with
  | none => exact (self first).append (h _)
  | some x => exact (((self first).before _).append (h _)).after _

end InOrder

/-- an operand as a node writes it: the type of its constants, and what stands between the items of
a list -/
structure Written where
  operand : Operand
  type : DataType
  separator : String

def Written.ofExpr (e : Expr) : Written := ⟨.expr e, e.dataType, ""⟩

def Written.sql (w : Written) (t : Target) (ctx : Context) : String :=
  w.operand.sql w.type w.separator t ctx

/-- the operands that a node is about, from the left; parameters and the cases of a decode, which
templates may leave out or repeat, are none of them -/
def Node.operands (t : Target) : Node → List Written
  | .column _ | .constant .. | .constantFor .. => []
  | .arith e op v => [.ofExpr e, ⟨v, e.dataType, op.symbol⟩]
  | .concat e v => [.ofExpr e, ⟨v, .varchar, Template.connector (t.phrase .concatExpr)⟩]
  | .concatAll e _ others => (e :: others).map .ofExpr
  | .wrap e _ _ _ _ _ => [.ofExpr e]
  | .phrase e _ _ _ _ _ => [.ofExpr e]
  | .convert e _ _ => [.ofExpr e]
  | .call _ e _ _ => [.ofExpr e]
  | .callTwo _ a _ b _ _ => [.ofExpr a, .ofExpr b]
  | .decode e _ _ _ => [.ofExpr e]
  | .named e _ => [.ofExpr e]

/-- Operands lead from `x` up to `e`: `x` is in an operand of `e`, or in one of an expression that
is in an operand of `e`, and so on. -/
def Expr.Carried (t : Target) : Expr → Expr → Prop :=
  Relation.TransGen fun x e => ∃ w ∈ e.node.operands t, x ∈ w.operand.exprs

variable (t : Target) (ctx : Context)

theorem Target.hasMark_phrase {p : Phrase} (hp : p.takesOperand = true) :
    Phrase.hasMark (t.phrase p) = true := by
  have hd : Phrase.hasMark p.template = true := by
    have ha := p.accepts_template
    have he : p.template.isEmpty = false := by simpa using p.template_ne_empty
    simpa [Phrase.accepts, hp, he] using ha
  unfold phrase
  split
  · exact hd
  · split
    · exact hd
    next h =>
      rw [hp, Bool.true_and, Bool.or_eq_true, not_or] at h
      simpa using h.2

@[simp] theorem Written.sql_ofExpr (e : Expr) : (ofExpr e).sql t ctx = e.sql t ctx :=
  Operand.sql_expr t ctx e _ _

theorem InOrder.others (es : List Expr) (separator : Option String) (connector : String) :
    InOrder (es.map fun e => e.sql t ctx) (Expr.othersSql es separator t ctx connector) := by
  have h : ∀ e ∈ es, InOrder [e.sql t ctx]
      (connector ++ t.separatorText separator connector ++ e.sql t ctx) :=
    fun e _ => (self _).before _
  rw [Expr.othersSql, List.map_eq_flatMap]
  exact join h

section

variable (type : DataType) (separator : String)

mutual

theorem InOrder.exprs : ∀ v : Operand,
    InOrder (v.exprs.map fun e => e.sql t ctx) (v.sql type separator t ctx)
  | .expr e => by
    rw [Operand.sql_expr]
    exact self (e.sql t ctx)
  | .value _ => .nil _
  | .list items => by
    rw [Operand.sql_list, Operand.exprs, Operand.allExprs_eq, List.map_flatMap]
    exact intercalate separator (InOrder.itemExprs items)

theorem InOrder.itemExprs : ∀ (vs : List Operand), ∀ v ∈ vs,
    InOrder (v.exprs.map fun e => e.sql t ctx) (v.sql type separator t ctx)
  | [], _, hv => absurd hv List.not_mem_nil
  | v :: r, _, hv =>
    (List.mem_cons.1 hv).elim (fun h => h ▸ InOrder.exprs v) (InOrder.itemExprs r _)

end

end

/-- One node has the SQL of its operands in its own. -/
theorem Node.inOrder_operands (n : Node) :
    InOrder ((n.operands t).map fun w => w.sql t ctx.inner) (n.sql t ctx) := by
  cases n with
  | column | constant | constantFor => exact .nil _
  | arith e op v =>
    rw [operands, List.map_cons, Written.sql_ofExpr, sql_arith]
    exact ((InOrder.self _).after _).append (.self _)
  | concat e v =>
    rw [operands, List.map_cons, Written.sql_ofExpr, sql_concat]
    exact .concatenated (t.phrase .concatExpr) (e.sql t ctx.inner)
      fun separator => v.sql .varchar separator t ctx.inner
  | concatAll e separator others =>
    simp only [operands, List.map_cons, List.map_map, Function.comp_def, Written.sql_ofExpr,
      sql_concatAll]
    exact .concatenatedAll _ _ (.others t ctx.inner others separator)
  | wrap e before after update aggregate type =>
    rw [operands, List.map_singleton, Written.sql_ofExpr, sql_wrap]
    exact ((InOrder.self _).before _).after _
  | phrase e p params type update dataType =>
    rw [operands, List.map_singleton, Written.sql_ofExpr, sql_phrase]
    exact .filled _ _ _
  | convert e dest format =>
    rw [operands, List.map_singleton, Written.sql_ofExpr, sql_convert]
    exact .filled _ _ _
  | call before e after update =>
    rw [operands, List.map_singleton, Written.sql_ofExpr, sql_call]
    exact ((InOrder.self _).before _).after _
  | callTwo before a between b after update =>
    rw [operands, List.map_cons, List.map_singleton, Written.sql_ofExpr, Written.sql_ofExpr,
      sql_callTwo]
    exact ((((InOrder.self _).before _).after _).append (.self _)).after _
  | decode e branches otherwise type =>
    rw [operands, List.map_singleton, Written.sql_ofExpr, sql_decode]
    exact .filled _ _ _
  | named e name =>
    rw [operands, List.map_singleton, Written.sql_ofExpr, sql_named]
    by_cases ha : ctx.has .aliases = true
    · rw [if_pos ha]
      exact ((InOrder.self _).after _).after _
    -- no alias is written, and the operand is in the context of the node, not in the inner one
    · rw [if_neg ha, e.sql_inner t (by simpa using ha)]
      exact .self _

theorem Expr.inOrder_operands (e : Expr) :
    InOrder ((e.node.operands t).map fun w => w.sql t ctx.inner) (e.sql t ctx) := by
  rw [e.sql_node]
  exact e.node.inOrder_operands t ctx

theorem Expr.exists_append_of_operand {t : Target} {x e : Expr}
    (h : ∃ w ∈ e.node.operands t, x ∈ w.operand.exprs) (ctx : Context) :
    ∃ before after, e.sql t ctx = before ++ x.sql t ctx.inner ++ after := by
  obtain ⟨w, hw, hx⟩ := h
  obtain ⟨b, c, hb⟩ := (e.inOrder_operands t ctx).exists_append (List.mem_map_of_mem hw)
  obtain ⟨b', c', hb'⟩ := (InOrder.exprs t ctx.inner w.type w.separator w.operand).exists_append
    (List.mem_map_of_mem hx)
  refine ⟨b ++ b', c' ++ c, ?_⟩
  rw [hb, Written.sql, hb']
  simp only [String.append_assoc]

/-- the whole way up, on which the context is the inner one from the first step on -/
theorem Expr.Carried.exists_append {t : Target} {x e : Expr} (h : x.Carried t e) (ctx : Context) :
    ∃ before after, e.sql t ctx = before ++ x.sql t ctx.inner ++ after := by
  induction h generalizing ctx with
  | single h => exact exists_append_of_operand h ctx
  | tail _ h ih =>
    obtain ⟨b, c, hb⟩ := exists_append_of_operand h ctx
    obtain ⟨b', c', hb'⟩ := ih ctx.inner
    refine ⟨b ++ b', c' ++ c, ?_⟩
    rw [hb, hb', Context.inner_inner]
    simp only [String.append_assoc]

/-- Whatever texts a dialect has for its phrases, empty ones and ones without a place for the
operand among them: the template that is used for a phrase is never empty, and that of a function
has a place for its operand. The SQL of each expression has that of its operands in it, in their
order and each in one piece. So what operands carry up a tree, at any depth, is in the SQL of the
whole. -/
theorem sql_keeps_operands (t : Target) :
    (∀ p : Phrase, t.phrase p ≠ "" ∧
      (p.takesOperand = true → Phrase.hasMark (t.phrase p) = true)) ∧
    (∀ (e : Expr) (ctx : Context),
      InOrder ((e.node.operands t).map fun w => w.sql t ctx.inner) (e.sql t ctx)) ∧
    ∀ x e : Expr, x.Carried t e → ∀ ctx : Context,
      ∃ before after, e.sql t ctx = before ++ x.sql t ctx.inner ++ after :=
  ⟨fun p => ⟨t.phrase_ne_empty p, t.hasMark_phrase⟩, fun e ctx => e.inOrder_operands t ctx,
    fun _ _ h ctx => h.exists_append ctx⟩

/-- a column in a function whose template has no place for it, in a concatenation whose template has
no place for the right side -/
theorem sql_keeps_operands_gaps :
    let t : Target := ⟨some (.ofPhrases "gaps" fun p =>
      if p = .upper then "upper()" else if p = .concatExpr then "join(?)" else "")⟩
    let x : Expr := .mk [0] [] (.column ⟨some "t", "A", .varchar⟩)
    let upper : Expr := .mk [1] [] (.phrase x .upper [] .varchar none none)
    let e : Expr := .mk [2] [] (.concat (.mk [3] [] (.constant .null .varchar))
      (.list [.value .now, .expr upper]))
    (Phrase.upper.takesOperand = true ∧ Phrase.hasMark (t.phrase .upper) = true) ∧
      x.Carried t e ∧ ∀ ctx : Context,
        ∃ before after, e.sql t ctx = before ++ x.sql t ctx.inner ++ after := by
  intro t x upper e
  obtain ⟨hp, -, hc⟩ := sql_keeps_operands t
  have hx : ∃ w ∈ upper.node.operands t, x ∈ w.operand.exprs :=
    ⟨.ofExpr x, List.mem_singleton.2 rfl, List.mem_singleton.2 rfl⟩
  have hu : ∃ w ∈ e.node.operands t, upper ∈ w.operand.exprs :=
    ⟨_, List.mem_cons_of_mem _ (List.mem_singleton.2 rfl), List.mem_singleton.2 rfl⟩
  have h : x.Carried t e := .tail (.single hx) hu
  exact ⟨⟨rfl, (hp .upper).2 rfl⟩, h, hc x e h⟩

end ColumnSql
