import ColumnSql.Proofs.Expr.Frame
import ColumnSql.Proofs.Text.Spliced

/-! Expressions whose SQL is a fixed text around another one. If the SQL of a part is such a text,
so is that of the whole: what is put in a template is not read as a part of the template again. -/

namespace ColumnSql

def Template.placeholders (template : String) : List Placeholder :=
  (pieces (parts template).1 ++ pieces (parts template).2).filterMap fun
    | .parameter p => some p
    | .verbatim _ => none

theorem Template.mem_placeholders {template : String} {p : Placeholder} :
    p ∈ placeholders template ↔ .parameter p ∈ pieces (parts template).1 ∨
      .parameter p ∈ pieces (parts template).2 := by
  rw [placeholders, List.mem_filterMap, ← List.mem_append]
  constructor
  · rintro ⟨x, hx, h⟩
    cases x <;> simp_all
  · exact fun h => ⟨_, h, rfl⟩

namespace Spliced

variable {ι : Type} {q f : ι → String}

theorem filled (template : String) {arg : ι → Template.Placeholder → String}
    (ha : ∀ p ∈ Template.placeholders template, Spliced q fun i => arg i p) (hf : Spliced q f) :
    Spliced q fun i => Template.filled template (arg i) (f i) := by
  have h₁ := substitute (Template.parts template).1
    fun p hp => ha p (Template.mem_placeholders.2 (.inl hp))
  have h₂ := substitute (Template.parts template).2
    fun p hp => ha p (Template.mem_placeholders.2 (.inr hp))
  exact (h₁.append hf).append h₂

theorem concatenated (template : String) {g : ι → String → String} (hf : Spliced q f)
    (hg : ∀ connector, Spliced q fun i => g i connector) :
    Spliced q fun i => Template.concatenated template (f i) (g i) := by
  unfold Template.concatenated
  cases Text.splitFirst ['?'] template.toList with
  | none => exact (hf.append (.const _)).append (hg _)
  | some x =>
    dsimp only
    cases Text.splitFirst ['\x7b', '0', '\x7d'] x.2 with
    | none => exact (((Spliced.const _).append hf).append (.const _)).append (hg _)
    | some y =>
      exact ((((Spliced.const _).append hf).append (.const _)).append (hg _)).append (.const _)

theorem concatenatedAll (template : String) {g : ι → String → String} (hf : Spliced q f)
    (hg : ∀ connector, Spliced q fun i => g i connector) :
    Spliced q fun i => Template.concatenatedAll template (f i) (g i) := by
  unfold Template.concatenatedAll
  cases Text.splitFirst ['?'] template.toList with
  | none => exact hf.append (hg _)
  | some x => exact (((Spliced.const _).append hf).append (hg _)).append (.const _)

theorem argument (t : Target) (before after : List (DataType → String))
    {g : ι → DataType → String} (type : DataType) {p : Template.Placeholder}
    (h : p.index = some before.length → Spliced q fun i => g i (p.hint.getD type)) :
    Spliced q fun i => t.argument (before ++ g i :: after) type p := by
  unfold Target.argument
  cases hp : p.index with
  | none => exact .const _
  | some n =>
    simp only [Option.bind_some]
    rcases Nat.lt_trichotomy n before.length with hn | rfl | hn
    · simp only [List.getElem?_append_left hn]
      exact .const _
    · simpa using h hp
    · obtain ⟨m, rfl⟩ := Nat.exists_eq_add_of_lt hn
      simp only [Nat.add_assoc, List.getElem?_append_right (Nat.le_add_right _ _),
        Nat.add_sub_cancel_left, List.getElem?_cons_succ]
      exact .const _

end Spliced

def Slot.types (t : Target) : Slot → List DataType
  | arithRight e _ => [e.dataType]
  | concatRight _ => [.varchar]
  | param _ p before _ type _ _ =>
    ((Template.placeholders (t.phrase p)).filter fun x => x.index = some before.length).map
      fun x => x.hint.getD type
  | key e .. => [e.dataType]
  | result _ _ _ _ _ type | fallback _ _ type => [type]

section

variable {ι : Type} {q : ι → String} {t : Target}

theorem OperandHole.spliced_fill (h : OperandHole) {v : ι → Operand} {type : DataType}
    {separator : String} {ctx : Context}
    (hv : Spliced q fun i => (v i).sql type separator t ctx) :
    Spliced q fun i => (h.fill (v i)).sql type separator t ctx := by
  induction h with
  | here => exact hv
  | item before inside after ih =>
    simp only [fill, Operand.sql_list, List.map_append, List.map_cons]
    exact ih.intercalate separator _ _

theorem Branch.spliced_allSql {b : ι → Branch} {k type : DataType} {ctx : Context}
    (before after : List Branch) (otherwise : Option Operand)
    (hk : Spliced q fun i => (b i).key.textFor t ctx k)
    (hr : Spliced q fun i => (b i).result.textFor t ctx type) :
    Spliced q fun i => allSql (before ++ b i :: after) otherwise k type t ctx := by
  have hb : Spliced q fun i => (b i).sql k type t ctx := by
    refine (Spliced.const _).append (.substitute _ fun p _ => ?_)
    by_cases h₀ : p.index = some 0
    · simpa only [h₀, if_true] using hk
    · by_cases h₁ : p.index = some 1
      · simpa [h₁] using hr
      · simpa only [h₀, h₁, if_false] using .const ""
  simp only [allSql, List.map_append, List.map_cons]
  exact (hb.join _ _).append (.const _)

theorem Branch.spliced_allSql_some {v : ι → Operand} {type : DataType} {ctx : Context}
    (branches : List Branch) (k : DataType) (hv : Spliced q fun i => (v i).textFor t ctx type) :
    Spliced q fun i => allSql branches (some (v i)) k type t ctx :=
  (Spliced.const _).append ((Spliced.const _).append (.substitute _ fun _ _ => hv))

/-- The cases of a decode are raw SQL for its template, so they stay as they are. -/
theorem Spliced.decode (ht : ∀ sql type, t.literal (.raw sql) type = sql) {cases : ι → String}
    (e : ι → Expr) {ctx : Context} (he : Spliced q fun i => (e i).sql t ctx)
    (hc : Spliced q cases) :
    Spliced q fun i =>
      Template.filled (t.phrase .decode) (t.argument [t.literal (.raw (cases i))] .unknown)
        ((e i).sql t ctx) := by
  refine .filled _ (fun p _ => .argument t [] [] .unknown fun _ => ?_) he
  simpa only [ht] using hc

theorem Slot.spliced_node (ht : ∀ sql type, t.literal (.raw sql) type = sql) (s : Slot)
    {v : ι → Operand} {ctx : Context}
    (hv : ∀ type ∈ s.types t, ∀ separator,
      Spliced q fun i => (v i).sql type separator t ctx.inner) :
    Spliced q fun i => (s.node (v i)).sql t ctx := by
  cases s with
  | arithRight e op =>
    simp only [node, Node.sql_arith]
    exact (Spliced.const _).append (hv _ (by simp [types]) op.symbol)
  | concatRight e =>
    simp only [node, Node.sql_concat]
    exact .concatenated _ (.const _) fun separator => hv _ (by simp [types]) separator
  | param e p before after type update dataType =>
    simp only [node, Node.sql_phrase, List.map_append, List.map_cons]
    refine .filled _ (fun x hx => .argument t _ _ type fun h => ?_) (.const _)
    refine hv _ (List.mem_map.2 ⟨x, List.mem_filter.2 ⟨hx, ?_⟩, rfl⟩) ", "
    simpa using h
  | key e before result after otherwise type =>
    simp only [node, Node.sql_decode]
    exact .decode ht (fun _ => e) (.const _)
      (Branch.spliced_allSql before after otherwise (hv _ (by simp [types]) ", ")
        (.const (result.textFor t ctx.inner type)))
  | result e before key after otherwise type =>
    simp only [node, Node.sql_decode]
    exact .decode ht (fun _ => e) (.const _)
      (Branch.spliced_allSql before after otherwise (.const (key.textFor t ctx.inner e.dataType))
        (hv _ (by simp [types]) ", "))
  | fallback e branches type =>
    simp only [node, Node.sql_decode]
    exact .decode ht (fun _ => e) (.const _)
      (Branch.spliced_allSql_some branches _ (hv _ (by simp [types]) ", "))

theorem Frame.spliced_node (ht : ∀ sql type, t.literal (.raw sql) type = sql) (f : Frame)
    {e : ι → Expr} {type : DataType} (hd : ∀ i, (e i).dataType = type)
    (he : ∀ ctx, Spliced q fun i => (e i).sql t ctx) (ctx : Context) :
    Spliced q fun i => (f.node (e i)).sql t ctx := by
  have hi := he ctx.inner
  cases f with
  | column v =>
    simp only [node, Node.sql_constantFor, hd]
    exact .const _
  | arithLeft op v =>
    simp only [node, Node.sql_arith, hd]
    exact (hi.append (.const _)).append (.const _)
  | concatLeft v =>
    simp only [node, Node.sql_concat]
    exact hi.concatenated _ fun _ => .const _
  | concatFirst separator others =>
    simp only [node, Node.sql_concatAll]
    exact hi.concatenatedAll _ fun _ => .const _
  | concatOther first separator before after =>
    simp only [node, Node.sql_concatAll]
    refine .concatenatedAll _ (.const _) fun connector => ?_
    simp only [Expr.othersSql, List.map_append, List.map_cons]
    exact ((Spliced.const _).append hi).join _ _
  | wrap before after update aggregate dataType =>
    simp only [node, Node.sql_wrap]
    exact ((Spliced.const _).append hi).append (.const _)
  | phrase p params type update dataType =>
    simp only [node, Node.sql_phrase]
    exact hi.filled _ fun _ _ => .const _
  | convert dest format =>
    simp only [node, Node.sql_convert, hd]
    exact hi.filled _ fun _ _ => .const _
  | call before after update =>
    simp only [node, Node.sql_call]
    exact ((Spliced.const _).append hi).append (.const _)
  | callFirst before between second after update =>
    simp only [node, Node.sql_callTwo]
    exact ((((Spliced.const _).append hi).append (.const _)).append (.const _)).append (.const _)
  | callSecond before first between after update =>
    simp only [node, Node.sql_callTwo]
    exact ((Spliced.const _).append hi).append (.const _)
  | condition branches otherwise dataType =>
    simp only [node, Node.sql_decode, hd]
    exact .decode ht e hi (.const _)
  | named name =>
    simp only [node, Node.sql_named]
    split
    · exact (hi.append (.const _)).append (.const _)
    · exact he ctx
  | operand s hole =>
    refine s.spliced_node ht fun type _ separator => hole.spliced_fill ?_
    simpa only [Operand.sql_expr] using hi

/-- Layers keep the form of the SQL in their hole, if the type of what fills it is always the
same. -/
theorem Layer.spliced_fillAll (ht : ∀ sql type, t.literal (.raw sql) type = sql)
    (ls : List Layer) {e : ι → Expr} {a : Expr} (hd : ∀ i, (e i).dataType = a.dataType)
    (he : ∀ ctx, Spliced q fun i => (e i).sql t ctx) (ctx : Context) :
    Spliced q fun i => (fillAll ls (e i)).sql t ctx := by
  induction ls generalizing ctx with
  | nil => exact he ctx
  | cons l r ih =>
    exact l.frame.spliced_node ht (fun i => dataType_fillAll_congr r (hd i)) ih ctx

end

end ColumnSql
