import ColumnSql.Expr.Rendering
import ColumnSql.Proofs.Dialect.Template
import ColumnSql.Proofs.Expr.Induction

/-! Writing an expression appends to the buffer, and what it appends is the SQL of the expression
by itself. So the SQL of a node is a text made of the SQL of its parts. -/

namespace ColumnSql

namespace SqlBuffer

attribute [simp] target_append

@[simp] theorem append_append (b : SqlBuffer) (s t : String) :
    (b.append s).append t = b.append (s ++ t) := by
  simp [append, String.append_assoc]

theorem append_empty (b : SqlBuffer) : b.append "" = b := by
  simp [append]

end SqlBuffer

/-- The writer `f` does to each buffer for `t` what appending `s` does. -/
def Appends (t : Target) (f : SqlBuffer → SqlBuffer) (s : String) : Prop :=
  ∀ out : SqlBuffer, out.target = t → f out = out.append s

def Node.sql (n : Node) (t : Target) (ctx : Context) : String := (n.write ctx (.empty t)).text

@[simp] theorem Expr.sql_mk (p : Place) (a : Attributes) (n : Node) (t : Target) (ctx : Context) :
    (mk p a n).sql t ctx = n.sql t ctx := rfl

theorem Expr.write_node (e : Expr) : e.write = e.node.write := by
  cases e
  rfl

theorem Expr.sql_node (e : Expr) : e.sql = e.node.sql := by
  cases e
  rfl

namespace Appends

variable {t : Target} {f g : SqlBuffer → SqlBuffer} {r s : String}

theorem append (t : Target) (s : String) : Appends t (fun out => out.append s) s := fun _ _ => rfl

theorem id (t : Target) : Appends t (fun out => out) "" := fun out _ => out.append_empty.symm

theorem comp (hf : Appends t f r) (hg : Appends t g s) :
    Appends t (fun out => g (f out)) (r ++ s) := by
  intro out ht
  change g (f out) = _
  rw [hf out ht, hg (out.append r) ht, SqlBuffer.append_append]

theorem before (hf : Appends t f s) (r : String) :
    Appends t (fun out => f (out.append r)) (r ++ s) := (append t r).comp hf

theorem after (hf : Appends t f r) (s : String) :
    Appends t (fun out => (f out).append s) (r ++ s) := hf.comp (append t s)

theorem text_eq (hf : Appends t f s) : (f (.empty t)).text = s := by
  rw [hf (.empty t) rfl]
  exact String.empty_append

theorem self (hf : Appends t f s) : Appends t f (f (.empty t)).text := by
  rwa [hf.text_eq]

theorem ofNode (e : Expr) {ctx : Context} (h : Appends t (e.node.write ctx) s) :
    Appends t (e.write ctx) s := by
  rwa [e.write_node]

end Appends

def Column.sql (c : Column) (t : Target) (ctx : Context) : String :=
  match ctx.has .fullName, c.table with
  | true, some table => t.name table ++ "." ++ t.name c.name
  | _, _ => t.name c.name

def Target.separatorText (t : Target) (separator : Option String) (connector : String) : String :=
  match separator with
  | none => ""
  | some s => t.literal (.text s) .varchar ++ connector

namespace Template

/-- the template of a function with its parameters, and the operand in the place of `?` -/
def filled (template : String) (arg : Placeholder → String) (operand : String) : String :=
  substitute arg (parts template).1 ++ operand ++ substitute arg (parts template).2

def concatenated (template : String) (left : String) (right : String → String) : String :=
  match Text.splitFirst ['?'] template.toList with
  | none => left ++ template ++ right template
  | some (before, rest) =>
    match Text.splitFirst ['\x7b', '0', '\x7d'] rest with
    | none => String.ofList before ++ left ++ String.ofList rest ++ right ", "
    | some (middle, after) =>
      String.ofList before ++ left ++ String.ofList middle ++ right ", " ++ String.ofList after

/-- the template of a concatenation of many, with the first and what the connector makes of the
others -/
def concatenatedAll (template : String) (first : String) (others : String → String) : String :=
  match Text.splitFirst ['?'] template.toList with
  | none => first ++ others template
  | some (before, after) => String.ofList before ++ first ++ others ", " ++ String.ofList after

theorem filled_eq {template : String} {arg : Placeholder → String} {a b : List Char}
    (h : template.toList = a ++ '?' :: b) (ha : '?' ∉ a) (x : String) :
    filled template arg x = substitute arg a ++ x ++ substitute arg b := by
  rw [filled, parts, h, Text.splitFirst_append_cons ha]
  rfl

/-- In a template with one place after that of the operand, the rest stands as it is. -/
theorem filled_place {template : String} {arg : Placeholder → String} {a m z : List Char}
    (h : template.toList = a ++ '?' :: (m ++ '\x7b' :: '0' :: '\x7d' :: z)) (hq : '?' ∉ a)
    (ha : ¬ HasPlaceholder a) (hm : ¬ HasPlaceholder m) (hz : ¬ HasPlaceholder z) (x : String) :
    filled template arg x =
      String.ofList a ++ x ++ String.ofList m ++ arg ⟨some 0, none⟩ ++ String.ofList z := by
  rw [filled_eq h hq, substitute_append_place, substitute_of_not_hasPlaceholder ha,
    substitute_of_not_hasPlaceholder hm, substitute_of_not_hasPlaceholder hz]
  simp only [String.append_assoc]

end Template

def Expr.othersSql (es : List Expr) (separator : Option String) (t : Target) (ctx : Context)
    (connector : String) : String :=
  String.join (es.map fun e => connector ++ t.separatorText separator connector ++ e.sql t ctx)

def Operand.textFor (t : Target) (ctx : Context) (v : Operand) (type : DataType) : String :=
  v.sql type ", " t ctx

def Branch.sql (b : Branch) (k type : DataType) (t : Target) (ctx : Context) : String :=
  t.phrase .decodeSeparator ++
    Template.substitute
      (fun p =>
        if p.index = some 0 then b.key.textFor t ctx k
        else if p.index = some 1 then b.result.textFor t ctx type
        else "")
      (t.phrase .decodePart).toList

def Operand.elseSql (otherwise : Option Operand) (type : DataType) (t : Target) (ctx : Context) :
    String :=
  match otherwise with
  | none => ""
  | some v =>
    t.phrase .decodeSeparator ++
      Template.substitute (fun _ => v.textFor t ctx type) (t.phrase .decodeElse).toList

def Branch.allSql (branches : List Branch) (otherwise : Option Operand) (k type : DataType)
    (t : Target) (ctx : Context) : String :=
  String.join (branches.map fun b => b.sql k type t ctx) ++ Operand.elseSql otherwise type t ctx

theorem Operand.texts_eq (vs : List Operand) (ctx : Context) (t : Target) :
    Operand.texts vs ctx t = vs.map (Operand.textFor t ctx) := by
  induction vs with
  | nil => rfl
  | cons v r ih => rw [Operand.texts, ih]; rfl

theorem Branch.cases_eq (bs : List Branch) (k type : DataType) (ctx : Context) (t : Target) :
    Branch.cases bs k type ctx t = String.join (bs.map fun b => b.sql k type t ctx) := by
  induction bs with
  | nil => rfl
  | cons b r ih =>
    cases b
    rw [Branch.cases, ih, List.map_cons, String.join_cons]
    rfl

namespace Appends

variable {t : Target} {f g : SqlBuffer → SqlBuffer} {r s : String}

theorem column (c : Column) (t : Target) (ctx : Context) :
    Appends t (c.write ctx) (c.sql t ctx) := by
  intro out ht
  subst ht
  rcases c with ⟨_ | table, name, type⟩ <;> cases h : ctx.has .fullName <;>
    simp [Column.write, Column.sql, h]

theorem separator (separator : Option String) (connector : String) (t : Target) :
    Appends t (writeSeparator separator connector) (t.separatorText separator connector) := by
  intro out ht
  subst ht
  cases separator with
  | none => exact out.append_empty.symm
  | some s => simp [writeSeparator, Target.separatorText]

theorem fill (template : String) (arg : Template.Placeholder → String) (hf : Appends t f s) :
    Appends t (fun out => out.fill template arg f) (Template.filled template arg s) :=
  (hf.before _).after _

theorem fillConcat (template : String) {right : String → SqlBuffer → SqlBuffer}
    {rs : String → String} (hf : Appends t f s) (hr : ∀ c, Appends t (right c) (rs c)) :
    Appends t (fun out => out.fillConcat template f right)
      (Template.concatenated template s rs) := by
  unfold SqlBuffer.fillConcat Template.concatenated
  cases Text.splitFirst ['?'] template.toList with
  | none => exact (hf.after template).comp (hr template)
  | some x =>
    dsimp only
    cases Text.splitFirst ['\x7b', '0', '\x7d'] x.2 with
    | none => exact ((hf.before _).after _).comp (hr ", ")
    | some y => exact (((hf.before _).after _).comp (hr ", ")).after _

theorem others {es : List Expr} {ctx : Context} (separator : Option String) (connector : String)
    (h : ∀ e ∈ es, Appends t (e.write ctx) (e.sql t ctx)) :
    Appends t (Expr.writeOthers es ctx connector separator)
      (Expr.othersSql es separator t ctx connector) := by
  induction es with
  | nil => exact Appends.id t
  | cons e r ih =>
    have he := h e (List.mem_cons_self ..)
    have hr := ih fun x hx => h x (List.mem_cons_of_mem _ hx)
    intro out ht
    rw [Expr.writeOthers, Expr.othersSql, List.map_cons, String.join_cons]
    exact ((((Appends.separator separator connector t).before connector).comp he).comp hr) out ht

theorem otherItems {vs : List Operand} {type : DataType} {ctx : Context} {separator : String}
    (h : ∀ v ∈ vs, Appends t (v.write type ctx separator) (v.sql type separator t ctx)) :
    Appends t (Operand.writeOthers vs type ctx separator)
      (String.join (vs.map fun v => separator ++ v.sql type separator t ctx)) := by
  induction vs with
  | nil => exact Appends.id t
  | cons v r ih =>
    have hv := h v (List.mem_cons_self ..)
    have hr := ih fun x hx => h x (List.mem_cons_of_mem _ hx)
    intro out ht
    rw [Operand.writeOthers, List.map_cons, String.join_cons]
    exact ((hv.before separator).comp hr) out ht

end Appends

theorem append_join_eq_intercalate (separator s : String) (r : List String) :
    s ++ String.join (r.map (separator ++ ·)) = separator.intercalate (s :: r) := by
  induction r generalizing s with
  | nil => simp
  | cons x r ih =>
    rw [String.intercalate_cons_cons, ← ih x, List.map_cons, String.join_cons]
    simp only [String.append_assoc]

namespace Appends

variable {t : Target} {ctx : Context}

theorem constant (v : Value) (type : DataType) :
    Appends t ((Node.constant v type).write ctx) (t.literal v type) := by
  rintro out rfl
  rfl

theorem constantFor (c : Expr) (v : Value) :
    Appends t ((Node.constantFor c v).write ctx) (t.literal v c.dataType) := by
  rintro out rfl
  rfl

theorem arith {e : Expr} {op : Operator} {v : Operand} {r s : String}
    (he : Appends t (e.write ctx.inner) r)
    (hv : Appends t (v.write e.dataType ctx.inner op.symbol) s) :
    Appends t ((Node.arith e op v).write ctx) (r ++ op.symbol ++ s) :=
  (he.after _).comp hv

theorem concat {e : Expr} {v : Operand} {r : String} {s : String → String}
    (he : Appends t (e.write ctx.inner) r)
    (hv : ∀ separator, Appends t (v.write .varchar ctx.inner separator) (s separator)) :
    Appends t ((Node.concat e v).write ctx)
      (Template.concatenated (t.phrase .concatExpr) r s) := by
  rintro out rfl
  exact he.fillConcat (out.target.phrase .concatExpr) hv out rfl

theorem concatAll {e : Expr} {separator : Option String} {others : List Expr} {r : String}
    {s : String → String} (he : Appends t (e.write ctx.inner) r)
    (ho : ∀ connector, Appends t (Expr.writeOthers others ctx.inner connector separator)
      (s connector)) :
    Appends t ((Node.concatAll e separator others).write ctx)
      (Template.concatenatedAll (t.phrase .concat) r s) := by
  intro out ht
  rw [Node.write, ht, Template.concatenatedAll]
  cases Text.splitFirst ['?'] (t.phrase .concat).toList with
  | none => exact (he.comp (ho (t.phrase .concat))) out ht
  | some x => exact (((he.before _).comp (ho ", ")).after _) out ht

theorem wrap {e : Expr} {r : String} (before after : String) (update : Option Column)
    (aggregate : Bool) (type : Option DataType) (he : Appends t (e.write ctx.inner) r) :
    Appends t ((Node.wrap e before after update aggregate type).write ctx)
      (before ++ r ++ after) :=
  (he.before before).after after

theorem phrase {e : Expr} {r : String} (p : Phrase) (params : List Operand) (type : DataType)
    (update : Option Column) (dataType : Option DataType) (he : Appends t (e.write ctx.inner) r) :
    Appends t ((Node.phrase e p params type update dataType).write ctx)
      (Template.filled (t.phrase p) (t.argument (params.map (Operand.textFor t ctx.inner)) type)
        r) := by
  rintro out rfl
  rw [← Operand.texts_eq]
  exact he.fill _ _ out rfl

theorem convert {e : Expr} {r : String} (dest : DataType) (format : Option String)
    (he : Appends t (e.write ctx.inner) r) :
    Appends t ((Node.convert e dest format).write ctx)
      (Template.filled (t.conversion dest e.dataType format) (t.argument [] .unknown) r) := by
  rintro out rfl
  exact he.fill _ _ out rfl

theorem call {e : Expr} {r : String} (before after : String) (update : Option Column)
    (he : Appends t (e.write ctx.inner) r) :
    Appends t ((Node.call before e after update).write ctx) (before ++ r ++ after) :=
  (he.before before).after after

theorem callTwo {a b : Expr} {r s : String} (before between after : String)
    (update : Option Column) (ha : Appends t (a.write ctx.inner) r)
    (hb : Appends t (b.write ctx.inner) s) :
    Appends t ((Node.callTwo before a between b after update).write ctx)
      (before ++ r ++ between ++ s ++ after) :=
  (((ha.before before).after between).comp hb).after after

theorem decode {e : Expr} {r : String} (branches : List Branch) (otherwise : Option Operand)
    (type : DataType) (he : Appends t (e.write ctx.inner) r) :
    Appends t ((Node.decode e branches otherwise type).write ctx)
      (Template.filled (t.phrase .decode)
        (t.argument
          [t.literal (.raw (Branch.allSql branches otherwise e.dataType type t ctx.inner))]
          .unknown) r) := by
  rintro out rfl
  rw [Branch.allSql, ← Branch.cases_eq]
  cases otherwise <;> exact he.fill _ _ out rfl

theorem named {e : Expr} {r s : String} (name : String) (hr : Appends t (e.write ctx) r)
    (hs : Appends t (e.write ctx.inner) s) :
    Appends t ((Node.named e name).write ctx)
      (if ctx.has .aliases then s ++ t.phrase .renameColumn ++ t.identifier name else r) := by
  intro out ht
  rw [Node.write]
  split
  · subst ht
    simp only [hs out rfl, SqlBuffer.target_append, SqlBuffer.append_append]
  · exact hr out ht

theorem expr {e : Expr} {r : String} (type : DataType) (separator : String)
    (he : Appends t (e.write ctx) r) : Appends t ((Operand.expr e).write type ctx separator) r := by
  intro out ht
  rw [Operand.write, he out ht]

theorem value (v : Value) (type : DataType) (separator : String) :
    Appends t ((Operand.value v).write type ctx separator) (t.literal v type) := by
  rintro out rfl
  rw [Operand.write]

theorem list {items : List Operand} {type : DataType} {separator : String}
    (h : ∀ v ∈ items, Appends t (v.write type ctx separator) (v.sql type separator t ctx)) :
    Appends t ((Operand.list items).write type ctx separator)
      (separator.intercalate (items.map fun v => v.sql type separator t ctx)) := by
  intro out ht
  cases items with
  | nil => exact Appends.id t out ht
  | cons v r =>
    have hv := h v (List.mem_cons_self ..)
    have hr := otherItems fun x hx => h x (List.mem_cons_of_mem _ hx)
    rw [Operand.write, List.map_cons, ← append_join_eq_intercalate, List.map_map]
    exact hv.comp hr out ht

end Appends

theorem induction_appends : Induction (fun n => ∀ t ctx, Appends t (n.write ctx) (n.sql t ctx))
    (fun v => ∀ type separator t ctx,
      Appends t (v.write type ctx separator) (v.sql type separator t ctx)) where
  column c t ctx := (Appends.column c t ctx).self
  constant v type _ _ := (Appends.constant v type).self
  constantFor c v _ _ _ := (Appends.constantFor c v).self
  arith e _ _ he hv t ctx := (Appends.arith (.ofNode e (he t _)) (hv _ _ t ctx.inner)).self
  concat e _ he hv t ctx :=
    (Appends.concat (.ofNode e (he t _)) fun s => hv .varchar s t ctx.inner).self
  concatAll e separator others he ho t ctx := by
    have h := fun connector => Appends.others separator connector
      fun x hx => Appends.ofNode x (x.sql_node ▸ ho x hx t ctx.inner)
    exact (Appends.concatAll (.ofNode e (he t _)) h).self
  wrap e before after u a t he s ctx := (Appends.wrap before after u a t (.ofNode e (he s _))).self
  phrase e p params type u t he _ s ctx :=
    (Appends.phrase p params type u t (.ofNode e (he s _))).self
  convert e dest format he t ctx := (Appends.convert dest format (.ofNode e (he t _))).self
  call before e after u he t ctx := (Appends.call before after u (.ofNode e (he t _))).self
  callTwo before a between b after u ha hb t ctx :=
    (Appends.callTwo before between after u (.ofNode a (ha t _)) (.ofNode b (hb t _))).self
  decode e branches otherwise type he _ _ t ctx :=
    (Appends.decode branches otherwise type (.ofNode e (he t _))).self
  named e name he t ctx :=
    (Appends.named name (.ofNode e (he t ctx)) (.ofNode e (he t ctx.inner))).self
  expr e he type separator t ctx := (Appends.expr type separator (.ofNode e (he t ctx))).self
  value v type separator _ _ := (Appends.value v type separator).self
  list items hi type separator t ctx :=
    (Appends.list fun v hv => hi v hv type separator t ctx).self

/-- An expression appends its SQL to the buffer, whatever that holds. -/
theorem Expr.appends (e : Expr) (t : Target) (ctx : Context) :
    Appends t (e.write ctx) (e.sql t ctx) :=
  .ofNode e (e.sql_node ▸ induction_appends.ofNode e.node t ctx)

theorem Operand.appends (v : Operand) (type : DataType) (separator : String) (t : Target)
    (ctx : Context) : Appends t (v.write type ctx separator) (v.sql type separator t ctx) :=
  induction_appends.ofOperand v type separator t ctx

/-- Writing puts after the text of the buffer what it makes in an empty buffer for the same target,
and leaves the target as it is. -/
theorem write_eq_append_fork (out : SqlBuffer) (ctx : Context) :
    (∀ e : Expr, e.write ctx out = ⟨out.text ++ (e.write ctx out.fork).text, out.target⟩) ∧
    ∀ (v : Operand) (type : DataType) (separator : String),
      v.write type ctx separator out =
        ⟨out.text ++ (v.write type ctx separator out.fork).text, out.target⟩ :=
  ⟨fun e => e.appends out.target ctx out rfl,
    fun v type separator => v.appends type separator out.target ctx out rfl⟩

variable (t : Target) (ctx : Context)

@[simp] theorem Node.sql_column (c : Column) : (Node.column c).sql t ctx = c.sql t ctx :=
  (Appends.column c t ctx).text_eq

@[simp] theorem Node.sql_constant (v : Value) (type : DataType) :
    (Node.constant v type).sql t ctx = t.literal v type :=
  (Appends.constant v type).text_eq

@[simp] theorem Node.sql_constantFor (c : Expr) (v : Value) :
    (Node.constantFor c v).sql t ctx = t.literal v c.dataType :=
  (Appends.constantFor c v).text_eq

@[simp] theorem Node.sql_arith (e : Expr) (op : Operator) (v : Operand) :
    (Node.arith e op v).sql t ctx =
      e.sql t ctx.inner ++ op.symbol ++ v.sql e.dataType op.symbol t ctx.inner :=
  (Appends.arith (e.appends t _) (v.appends _ _ t _)).text_eq

@[simp] theorem Node.sql_concat (e : Expr) (v : Operand) :
    (Node.concat e v).sql t ctx =
      Template.concatenated (t.phrase .concatExpr) (e.sql t ctx.inner)
        fun separator => v.sql .varchar separator t ctx.inner :=
  (Appends.concat (e.appends t _) fun s => v.appends .varchar s t _).text_eq

@[simp] theorem Node.sql_concatAll (e : Expr) (separator : Option String) (others : List Expr) :
    (Node.concatAll e separator others).sql t ctx =
      Template.concatenatedAll (t.phrase .concat) (e.sql t ctx.inner)
        (Expr.othersSql others separator t ctx.inner) :=
  (Appends.concatAll (e.appends t _) fun connector =>
    Appends.others separator connector fun x _ => x.appends t _).text_eq

@[simp] theorem Node.sql_wrap (e : Expr) (before after : String) (update : Option Column)
    (aggregate : Bool) (type : Option DataType) :
    (Node.wrap e before after update aggregate type).sql t ctx =
      before ++ e.sql t ctx.inner ++ after :=
  (Appends.wrap before after update aggregate type (e.appends t _)).text_eq

@[simp] theorem Node.sql_phrase (e : Expr) (p : Phrase) (params : List Operand) (type : DataType)
    (update : Option Column) (dataType : Option DataType) :
    (Node.phrase e p params type update dataType).sql t ctx =
      Template.filled (t.phrase p) (t.argument (params.map (Operand.textFor t ctx.inner)) type)
        (e.sql t ctx.inner) :=
  (Appends.phrase p params type update dataType (e.appends t _)).text_eq

@[simp] theorem Node.sql_convert (e : Expr) (dest : DataType) (format : Option String) :
    (Node.convert e dest format).sql t ctx =
      Template.filled (t.conversion dest e.dataType format) (t.argument [] .unknown)
        (e.sql t ctx.inner) :=
  (Appends.convert dest format (e.appends t _)).text_eq

@[simp] theorem Node.sql_call (before : String) (e : Expr) (after : String)
    (update : Option Column) :
    (Node.call before e after update).sql t ctx = before ++ e.sql t ctx.inner ++ after :=
  (Appends.call before after update (e.appends t _)).text_eq

@[simp] theorem Node.sql_callTwo (before : String) (a : Expr) (between : String) (b : Expr)
    (after : String) (update : Option Column) :
    (Node.callTwo before a between b after update).sql t ctx =
      before ++ a.sql t ctx.inner ++ between ++ b.sql t ctx.inner ++ after :=
  (Appends.callTwo before between after update (a.appends t _) (b.appends t _)).text_eq

@[simp] theorem Node.sql_decode (e : Expr) (branches : List Branch) (otherwise : Option Operand)
    (type : DataType) :
    (Node.decode e branches otherwise type).sql t ctx =
      Template.filled (t.phrase .decode)
        (t.argument
          [t.literal (.raw (Branch.allSql branches otherwise e.dataType type t ctx.inner))]
          .unknown)
        (e.sql t ctx.inner) :=
  (Appends.decode branches otherwise type (e.appends t _)).text_eq

@[simp] theorem Node.sql_named (e : Expr) (name : String) :
    (Node.named e name).sql t ctx =
      if ctx.has .aliases then
        e.sql t ctx.inner ++ t.phrase .renameColumn ++ t.identifier name
      else e.sql t ctx :=
  (Appends.named name (e.appends t ctx) (e.appends t ctx.inner)).text_eq

@[simp] theorem Operand.sql_expr (e : Expr) (type : DataType) (separator : String) :
    (Operand.expr e).sql type separator t ctx = e.sql t ctx :=
  (Appends.expr type separator (e.appends t ctx)).text_eq

@[simp] theorem Operand.sql_value (v : Value) (type : DataType) (separator : String) :
    (Operand.value v).sql type separator t ctx = t.literal v type :=
  (Appends.value v type separator).text_eq

@[simp] theorem Operand.sql_list (items : List Operand) (type : DataType) (separator : String) :
    (Operand.list items).sql type separator t ctx =
      separator.intercalate (items.map fun v => v.sql type separator t ctx) :=
  (Appends.list fun v _ => v.appends type separator t ctx).text_eq

end ColumnSql
