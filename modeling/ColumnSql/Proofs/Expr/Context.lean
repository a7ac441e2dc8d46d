import ColumnSql.Expr.Metadata
import ColumnSql.Proofs.Expr.Sql

/-! What the SQL of an expression depends on besides the expression. Of a context, two flags count:
full names are written everywhere alike, and by the columns only, and the flag for aliases counts at
the root only, if that is an alias. Of a target, what it gives for phrases, literals, names and
conversions counts: of names those of the columns that are used and of literals those of the
constants that are written, besides raw SQL. -/

namespace ColumnSql

def Context.Alike (a b : Context) : Prop :=
  a.has .fullName = b.has .fullName ∧ a.has .aliases = b.has .aliases

theorem Context.Alike.refl (a : Context) : Alike a a := ⟨rfl, rfl⟩

theorem Context.Alike.inner {a b : Context} (h : a.has .fullName = b.has .fullName) :
    Alike a.inner b.inner :=
  ⟨by rw [has_fullName_inner, has_fullName_inner, h], by rw [has_aliases_inner, has_aliases_inner]⟩

/-- The targets give the same texts for all that is asked of them. -/
structure Target.Alike (t u : Target) : Prop where
  phrase : t.phrase = u.phrase
  literal : t.literal = u.literal
  name : t.name = u.name
  identifier : t.identifier = u.identifier
  conversion : t.conversion = u.conversion

theorem Target.Alike.refl (t : Target) : Alike t t := ⟨rfl, rfl, rfl, rfl, rfl⟩

/-- The targets give the same texts for all that is asked of them but names and constants. Raw SQL is
asked for by the cases of a decode. -/
structure Target.Akin (t u : Target) : Prop where
  phrase : t.phrase = u.phrase
  identifier : t.identifier = u.identifier
  conversion : t.conversion = u.conversion
  raw : ∀ sql, t.literal (.raw sql) = u.literal (.raw sql)

theorem Target.Alike.akin {t u : Target} (h : t.Alike u) : t.Akin u where
  phrase := h.phrase
  identifier := h.identifier
  conversion := h.conversion
  raw _ := by rw [h.literal]

theorem Column.sql_inner (c : Column) (t : Target) (ctx : Context) :
    c.sql t ctx.inner = c.sql t ctx := by
  rw [sql, sql, ctx.has_fullName_inner]

theorem Column.sql_congr (c : Column) {t u : Target} {a b : Context} (ht : t.Alike u)
    (h : a.has .fullName = b.has .fullName) : c.sql t a = c.sql u b := by
  rw [Column.sql, Column.sql, h, ht.name]

section

variable {t u : Target} {a b : Context} (ht : t.Akin u)

theorem Target.separatorText_congr {separator : Option String}
    (h : ∀ s ∈ separator, t.literal (.text s) = u.literal (.text s)) :
    t.separatorText separator = u.separatorText separator := by
  funext connector
  cases separator with
  | none => rfl
  | some s => simp only [Target.separatorText, h s rfl]

theorem Expr.othersSql_congr {es : List Expr} {separator : Option String}
    (hs : ∀ s ∈ separator, t.literal (.text s) = u.literal (.text s))
    (h : ∀ e ∈ es, e.sql t a = e.sql u b) :
    othersSql es separator t a = othersSql es separator u b := by
  funext connector
  unfold othersSql
  rw [List.map_congr_left fun e he => by rw [h e he, Target.separatorText_congr hs]]

include ht

theorem Target.Akin.argument : t.argument = u.argument := by
  funext params type p
  rw [Target.argument, Target.argument, ht.phrase]

theorem Branch.allSql_congr {branches : List Branch} {otherwise : Option Operand}
    (hb : ∀ x ∈ branches, x.key.textFor t a = x.key.textFor u b ∧
      x.result.textFor t a = x.result.textFor u b)
    (ho : ∀ v ∈ otherwise, v.textFor t a = v.textFor u b) (k type : DataType) :
    allSql branches otherwise k type t a = allSql branches otherwise k type u b := by
  have hs : (branches.map fun x => x.sql k type t a) = branches.map fun x => x.sql k type u b :=
    List.map_congr_left fun x hx => by
      rw [Branch.sql, Branch.sql, (hb x hx).1, (hb x hx).2, ht.phrase]
  have he : Operand.elseSql otherwise type t a = Operand.elseSql otherwise type u b := by
    cases otherwise with
    | none => rfl
    | some v => rw [Operand.elseSql, Operand.elseSql, ho v rfl, ht.phrase]
  rw [allSql, allSql, hs, he]

end

theorem Expr.columns_node (e : Expr) : e.columns = e.node.columns := by
  cases e
  simp only [columns, node]

theorem Expr.allColumns_eq (es : List Expr) : allColumns es = es.flatMap columns := by
  induction es with
  | nil => rfl
  | cons e r ih => rw [allColumns, ih, List.flatMap_cons]

theorem Operand.allColumns_eq (vs : List Operand) : allColumns vs = vs.flatMap columns := by
  induction vs with
  | nil => rfl
  | cons v r ih => rw [allColumns, ih, List.flatMap_cons]

theorem Branch.allColumns_eq (bs : List Branch) :
    allColumns bs = bs.flatMap fun b => b.key.columns ++ b.result.columns := by
  induction bs with
  | nil => rfl
  | cons b r ih =>
    rcases b with ⟨k, x⟩
    rw [allColumns, ih, List.flatMap_cons, columns, key, result]

theorem Node.columns_decode (e : Expr) (branches : List Branch) (otherwise : Option Operand)
    (t : DataType) :
    (Node.decode e branches otherwise t).columns =
      e.columns ++ (branches.flatMap fun b => b.key.columns ++ b.result.columns) ++
        otherwise.toList.flatMap Operand.columns := by
  cases otherwise <;> simp [columns, Branch.allColumns_eq]

mutual

/-- the constants that are written, from the left; a separator is one as well -/
def Expr.constants : Expr → List Value
  | .mk _ _ n => n.constants

def Node.constants : Node → List Value
  | .column _ => []
  | .constant v _ | .constantFor _ v => [v]
  | .arith e _ v => e.constants ++ v.constants
  | .concat e v => e.constants ++ v.constants
  | .concatAll e separator others =>
    e.constants ++ (separator.toList.map .text ++ Expr.allConstants others)
  | .wrap e _ _ _ _ _ => e.constants
  | .phrase e _ params _ _ _ => e.constants ++ Operand.allConstants params
  | .convert e _ _ => e.constants
  | .call _ e _ _ => e.constants
  | .callTwo _ a _ b _ _ => a.constants ++ b.constants
  | .decode e branches otherwise _ =>
    e.constants ++ Branch.allConstants branches ++
      match otherwise with
      | some v => v.constants
      | none => []
  | .named e _ => e.constants

def Operand.constants : Operand → List Value
  | .expr e => e.constants
  | .value v => [v]
  | .list items => Operand.allConstants items

def Expr.allConstants : List Expr → List Value
  | [] => []
  | e :: r => e.constants ++ Expr.allConstants r

def Operand.allConstants : List Operand → List Value
  | [] => []
  | x :: r => x.constants ++ Operand.allConstants r

def Branch.allConstants : List Branch → List Value
  | [] => []
  | .mk key result :: r => key.constants ++ result.constants ++ Branch.allConstants r

end

theorem Expr.constants_node (e : Expr) : e.constants = e.node.constants := by
  cases e
  simp only [constants, node]

theorem Expr.allConstants_eq (es : List Expr) : allConstants es = es.flatMap constants := by
  induction es with
  | nil => rfl
  | cons e r ih => rw [allConstants, ih, List.flatMap_cons]

theorem Operand.allConstants_eq (vs : List Operand) : allConstants vs = vs.flatMap constants := by
  induction vs with
  | nil => rfl
  | cons v r ih => rw [allConstants, ih, List.flatMap_cons]

theorem Branch.allConstants_eq (bs : List Branch) :
    allConstants bs = bs.flatMap fun b => b.key.constants ++ b.result.constants := by
  induction bs with
  | nil => rfl
  | cons b r ih =>
    rcases b with ⟨k, x⟩
    rw [allConstants, ih, List.flatMap_cons, key, result]

theorem Node.constants_decode (e : Expr) (branches : List Branch) (otherwise : Option Operand)
    (t : DataType) :
    (Node.decode e branches otherwise t).constants =
      e.constants ++ (branches.flatMap fun b => b.key.constants ++ b.result.constants) ++
        otherwise.toList.flatMap Operand.constants := by
  cases otherwise <;> simp [constants, Branch.allConstants_eq]

/-- Of the contexts and targets, what is asked for besides columns and constants is alike, and these
columns and constants are written alike. -/
structure LeavesAlike (cs : List Column) (vs : List Value) (t u : Target) (a b : Context) :
    Prop where
  target : t.Akin u
  aliases : a.has .aliases = b.has .aliases
  column : ∀ c ∈ cs, c.sql t a = c.sql u b
  constant : ∀ v ∈ vs, t.literal v = u.literal v

namespace LeavesAlike

variable {cs ds : List Column} {vs ws : List Value} {t u : Target} {a b : Context}

theorem inner (h : LeavesAlike cs vs t u a b) : LeavesAlike cs vs t u a.inner b.inner where
  target := h.target
  aliases := by rw [Context.has_aliases_inner, Context.has_aliases_inner]
  column c hc := by rw [c.sql_inner, c.sql_inner, h.column c hc]
  constant := h.constant

theorem mono (h : LeavesAlike cs vs t u a b) (hc : ds ⊆ cs) (hv : ws ⊆ vs) :
    LeavesAlike ds ws t u a b :=
  ⟨h.target, h.aliases, fun c hd => h.column c (hc hd), fun v hw => h.constant v (hv hw)⟩

theorem ofAppend (h : LeavesAlike (cs ++ ds) (vs ++ ws) t u a b) :
    LeavesAlike cs vs t u a b ∧ LeavesAlike ds ws t u a b :=
  ⟨h.mono (List.subset_append_left ..) (List.subset_append_left ..),
    h.mono (List.subset_append_right ..) (List.subset_append_right ..)⟩

theorem ofFlatMap {α : Type} {f : α → List Column} {g : α → List Value} {xs : List α}
    (h : LeavesAlike (xs.flatMap f) (xs.flatMap g) t u a b) {x : α} (hx : x ∈ xs) :
    LeavesAlike (f x) (g x) t u a b :=
  h.mono (fun _ hc => List.mem_flatMap.2 ⟨x, hx, hc⟩) fun _ hv => List.mem_flatMap.2 ⟨x, hx, hv⟩

theorem ofExpr (e : Expr) (h : LeavesAlike e.columns e.constants t u a b) :
    LeavesAlike e.node.columns e.node.constants t u a b :=
  e.columns_node ▸ e.constants_node ▸ h

end LeavesAlike

/-- Where its columns and constants are written alike, so is an expression. -/
theorem induction_alike :
    Induction
      (fun n => ∀ t u a b, LeavesAlike n.columns n.constants t u a b → n.sql t a = n.sql u b)
      (fun v => ∀ t u a b, LeavesAlike v.columns v.constants t u a b →
        ∀ type separator, v.sql type separator t a = v.sql type separator u b) where
  column c t u a b h := by simpa using h.column c (List.mem_singleton.2 rfl)
  constant v type t u a b h := by simp [h.constant v (List.mem_singleton.2 rfl)]
  constantFor c v _ t u a b h := by simp [h.constant v (List.mem_singleton.2 rfl)]
  arith e op v he hv t u a b h := by
    obtain ⟨hl, hr⟩ := h.inner.ofAppend
    simp [e.sql_node, he t u _ _ (.ofExpr e hl), hv t u _ _ hr]
  concat e v he hv t u a b h := by
    obtain ⟨hl, hr⟩ := h.inner.ofAppend
    simp [e.sql_node, he t u _ _ (.ofExpr e hl), hv t u _ _ hr, h.target.phrase]
  concatAll e separator others he ho t u a b h := by
    obtain ⟨hl, hr⟩ := h.inner.ofAppend
    have hs : ∀ s ∈ separator, t.literal (.text s) = u.literal (.text s) := fun s hs =>
      hr.constant _ (List.mem_append_left _ (List.mem_map_of_mem (Option.mem_toList.2 hs)))
    have hr := hr.mono (List.Subset.refl _) (List.subset_append_right ..)
    rw [Expr.allColumns_eq, Expr.allConstants_eq] at hr
    have := Expr.othersSql_congr hs
      (fun x hx => x.sql_node ▸ ho x hx t u _ _ (.ofExpr x (hr.ofFlatMap hx)))
    simp [e.sql_node, he t u _ _ (.ofExpr e hl), this, h.target.phrase]
  wrap e before after update g type he t u a b h := by
    simp [e.sql_node, he t u _ _ (.ofExpr e h.inner)]
  phrase e p params type update dt he hp t u a b h := by
    obtain ⟨hl, hr⟩ := h.inner.ofAppend
    rw [Operand.allColumns_eq, Operand.allConstants_eq] at hr
    have : params.map (Operand.textFor t a.inner) = params.map (Operand.textFor u b.inner) :=
      List.map_congr_left fun v hv => funext fun type =>
        hp v hv t u _ _ (hr.ofFlatMap hv) type ", "
    simp [e.sql_node, he t u _ _ (.ofExpr e hl), this, h.target.phrase, h.target.argument]
  convert e dest format he t u a b h := by
    simp [e.sql_node, he t u _ _ (.ofExpr e h.inner), h.target.conversion,
      h.target.argument]
  call before e after update he t u a b h := by
    simp [e.sql_node, he t u _ _ (.ofExpr e h.inner)]
  callTwo before x between y after update hx hy t u a b h := by
    obtain ⟨hl, hr⟩ := h.inner.ofAppend
    simp [x.sql_node, y.sql_node, hx t u _ _ (.ofExpr x hl),
      hy t u _ _ (.ofExpr y hr)]
  decode e branches otherwise type he hb ho t u a b h := by
    have h := h.inner
    rw [Node.columns_decode, Node.constants_decode] at h
    obtain ⟨hlr, hf⟩ := h.ofAppend
    obtain ⟨hl, hr⟩ := hlr.ofAppend
    have hbs : ∀ x ∈ branches, x.key.textFor t a.inner = x.key.textFor u b.inner ∧
        x.result.textFor t a.inner = x.result.textFor u b.inner := by
      intro x hx
      obtain ⟨hk, hv⟩ := (hr.ofFlatMap hx).ofAppend
      exact ⟨funext fun k => (hb x hx).1 t u _ _ hk k ", ",
        funext fun k => (hb x hx).2 t u _ _ hv k ", "⟩
    have hos : ∀ v ∈ otherwise, v.textFor t a.inner = v.textFor u b.inner := by
      intro v hv
      have hf := hf.ofFlatMap (Option.mem_toList.2 hv)
      exact funext fun k => ho v hv t u _ _ hf k ", "
    have := Branch.allSql_congr h.target hbs hos
    simp [e.sql_node, he t u _ _ (.ofExpr e hl), this, h.target.phrase, h.target.raw,
      h.target.argument]
  named e name he t u a b h := by
    have he {a b : Context} (h : LeavesAlike e.columns e.constants t u a b) :=
      he t u a b (.ofExpr e h)
    simp [e.sql_node, he h.inner, he h, h.aliases, h.target.phrase,
      h.target.identifier]
  expr e he t u a b h type separator := by
    simp [e.sql_node, he t u a b (.ofExpr e h)]
  value v t u a b h type separator := by simp [h.constant v (List.mem_singleton.2 rfl)]
  list items hi t u a b h type separator := by
    have h : LeavesAlike (Operand.allColumns items) (Operand.allConstants items) t u a b := h
    rw [Operand.allColumns_eq, Operand.allConstants_eq] at h
    simp only [Operand.sql_list]
    rw [List.map_congr_left fun v hv => hi v hv t u a b (h.ofFlatMap hv) type separator]

theorem Expr.sql_congr_leaves (e : Expr) {t u : Target} {a b : Context}
    (h : LeavesAlike e.columns e.constants t u a b) : e.sql t a = e.sql u b := by
  rw [e.sql_node]
  exact induction_alike.ofNode e.node t u a b (.ofExpr e h)

structure Column.AllAlike (cs : List Column) (t u : Target) (a b : Context) : Prop where
  target : t.Alike u
  aliases : a.has .aliases = b.has .aliases
  sql : ∀ c ∈ cs, c.sql t a = c.sql u b

theorem Expr.sql_congr_columns (e : Expr) {t u : Target} {a b : Context}
    (h : Column.AllAlike e.columns t u a b) : e.sql t a = e.sql u b :=
  e.sql_congr_leaves ⟨h.target.akin, h.aliases, h.sql, fun v _ => by rw [h.target.literal]⟩

/-- Targets that are alike give the same SQL in contexts that ask alike for full names and for
aliases. -/
theorem Expr.sql_congr (e : Expr) {t u : Target} {a b : Context} (ht : t.Alike u)
    (h : Context.Alike a b) : e.sql t a = e.sql u b :=
  e.sql_congr_columns ⟨ht, h.2, fun c _ => c.sql_congr ht h.1⟩

theorem Expr.sql_congr_context (e : Expr) (t : Target) {a b : Context} (h : Context.Alike a b) :
    e.sql t a = e.sql t b := e.sql_congr (.refl t) h

theorem Expr.sql_congr_target (e : Expr) {t u : Target} (h : t.Alike u) (ctx : Context) :
    e.sql t ctx = e.sql u ctx := e.sql_congr h (.refl ctx)

theorem Expr.sql_inner (e : Expr) (t : Target) {ctx : Context} (h : ctx.has .aliases = false) :
    e.sql t ctx.inner = e.sql t ctx :=
  e.sql_congr_context t ⟨ctx.has_fullName_inner, by rw [Context.has_aliases_inner, h]⟩

end ColumnSql
