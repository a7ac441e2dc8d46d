import ColumnSql.Proofs.Expr.Frame

/-! Aliases show at the root only. The SQL of an expression depends on two flags of the context, and
on the flag for aliases only if the root is an alias. -/

namespace ColumnSql

namespace Context

theorem has_common {m b : Context} (h : m.common b = b) (a : Context) :
    (a.common m).has b = a.has b := by
  have hm : m.bits &&& b.bits = b.bits := congrArg bits h
  rw [has, has, common, UInt32.and_assoc, hm]

theorem has_fullName_congr {a b : Context} (h : a.common fullName = b.common fullName) :
    a.has fullName = b.has fullName := by
  have hm : fullName.common fullName = fullName := by decide
  rw [← has_common hm a, ← has_common hm b, h]

theorem Alike.of_common {a b : Context}
    (h : a.common (fullName.set aliases) = b.common (fullName.set aliases)) : Alike a b := by
  have hf : (fullName.set aliases).common fullName = fullName := by decide
  have ha : (fullName.set aliases).common aliases = aliases := by decide
  constructor
  · rw [← has_common hf a, ← has_common hf b, h]
  · rw [← has_common ha a, ← has_common ha b, h]

end Context

/-- Without an alias at the root, a context is as good as the inner one. -/
theorem Expr.sql_inner_of_not_named (e : Expr) (t : Target) (ctx : Context)
    (h : ∀ body name, e.node ≠ .named body name) : e.sql t ctx.inner = e.sql t ctx := by
  rcases e with ⟨p, a, n⟩
  cases n with
  | named body name => exact absurd rfl (h body name)
  | column c => simpa using c.sql_congr (.refl t) ctx.has_fullName_inner
  | _ => simp [Context.inner_inner]

theorem Expr.sql_named_inner (p : Place) (a : Attributes) (body : Expr) (name : String) (t : Target)
    (ctx : Context) : (mk p a (.named body name)).sql t ctx.inner = body.sql t ctx.inner := by
  simp [Context.has_aliases_inner]

/-- The SQL is the same whatever the bits of the context are besides those for full names and for
aliases. Unless the root is an alias, that for aliases does not count either. An alias anywhere
below the root is as if it were not there. An alias at the root is its body, followed by the new
name in quotes if aliases are asked for. -/
theorem sql_alias_suppression (e : Expr) (t : Target) :
    (∀ a b : Context, a.common (.set .fullName .aliases) = b.common (.set .fullName .aliases) →
      e.sql t a = e.sql t b) ∧
    ((∀ body name, e.node ≠ .named body name) →
      ∀ a b : Context, a.common .fullName = b.common .fullName → e.sql t a = e.sql t b) ∧
    (∀ (l : Layer) (ls : List Layer) (place : Place) (attributes : Attributes) (body : Expr)
      (name : String), e = Layer.fillAll (l :: ls) (.mk place attributes (.named body name)) →
      ∀ ctx, e.sql t ctx = (Layer.fillAll (l :: ls) body).sql t ctx) ∧
    (∀ body name, e.node = .named body name → ∀ ctx,
      (ctx.has .aliases = true → e.sql t ctx =
        e.sql t (ctx.clear .aliases) ++ t.phrase .renameColumn ++ t.identifier name) ∧
      (ctx.has .aliases = false → e.sql t ctx = body.sql t ctx)) := by
  refine ⟨?_, ?_, ?_, ?_⟩
  · intro a b h
    exact e.sql_congr_context t (.of_common h)
  · intro hn a b h
    rw [← e.sql_inner_of_not_named t a hn, ← e.sql_inner_of_not_named t b hn]
    exact e.sql_congr_context t (.inner (Context.has_fullName_congr h))
  · rintro l ls place attributes body name rfl ctx
    exact Layer.sql_fillAll_congr l ls rfl (Expr.sql_named_inner ..)
  · intro body name he ctx
    rw [e.sql_node, he]
    constructor
    · intro ha
      have hi : (ctx.clear .aliases).has .aliases = false := ctx.has_aliases_inner
      rw [Node.sql_named, Node.sql_named, if_pos ha, hi, if_neg (by decide)]
      rfl
    · intro ha
      rw [Node.sql_named, ha, if_neg (by decide)]

/-- the upper case of a column with an alias, and that with another -/
theorem sql_alias_suppression_upper :
    let column : Expr := .mk [0] [] (.column ⟨none, "A", .varchar⟩)
    let upper : Layer := ⟨[1], [], .phrase .upper [] .varchar none none⟩
    let e : Expr := .mk [2] [] (.named (Layer.fillAll [upper] (.mk [3] [] (.named column "N"))) "U")
    let t : Target := ⟨some Builtin.mySql.dialect⟩
    e.sql t ⟨8⟩ = e.sql t ⟨12⟩ ∧
      e.sql t ⟨8⟩ = (Layer.fillAll [⟨[2], [], .named "U"⟩, upper] column).sql t ⟨8⟩ ∧
      e.sql t ⟨8⟩ = e.sql t (Context.clear ⟨8⟩ .aliases) ++ t.phrase .renameColumn ++
        t.identifier "U" ∧
      (Layer.fillAll [upper] column).sql t ⟨8⟩ = (Layer.fillAll [upper] column).sql t ⟨0⟩ := by
  intro column upper e t
  obtain ⟨hb, -, hl, hn⟩ := sql_alias_suppression e t
  obtain ⟨-, hi, -, -⟩ := sql_alias_suppression (Layer.fillAll [upper] column) t
  exact ⟨hb ⟨8⟩ ⟨12⟩ (by decide), hl _ [upper] [3] [] column "N" rfl ⟨8⟩,
    (hn _ "U" rfl ⟨8⟩).1 (by decide), hi (by simp [upper, Layer.fillAll, Layer.fill, Frame.node,
      Expr.node]) ⟨8⟩ ⟨0⟩ (by decide)⟩

end ColumnSql
