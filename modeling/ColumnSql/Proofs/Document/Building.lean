import ColumnSql.Document.Building
import ColumnSql.Proofs.Document.Reading
import ColumnSql.Proofs.Expr.Built

/-! Documents that make expressions. If one does, each of its parts does, and its constants are
scalars. -/

namespace ColumnSql

def Term.Builds (v : Term) : Prop := ∃ place x, v.build place = .ok x

def Document.Builds (d : Document) : Prop := ∃ place e, d.build place = .ok e

section

variable {place : Place} {i : Nat}

theorem Term.Builds.of_node {e : Document} (h : (node e).Builds) : e.Builds := by
  obtain ⟨place, x, h⟩ := h
  obtain ⟨r, h, _⟩ := exists_of_bind_eq_ok h
  exact ⟨place, r, h⟩

theorem Document.Builds.node {e : Document} (h : e.Builds) : (Term.node e).Builds := by
  obtain ⟨place, r, h⟩ := h
  exact ⟨place, .expr r, by rw [Term.build, h]; rfl⟩

theorem Document.builds_of_buildItems {es : List Document} {xs : List Expr}
    (h : buildItems es place i = .ok xs) : ∀ e ∈ es, e.Builds := by
  induction es generalizing i xs with
  | nil => exact List.forall_mem_nil _
  | cons e r ih =>
    obtain ⟨x, he, h⟩ := exists_of_bind_eq_ok h
    obtain ⟨ys, hr, _⟩ := exists_of_bind_eq_ok h
    exact List.forall_mem_cons.2 ⟨⟨_, x, he⟩, ih hr⟩

theorem Term.builds_of_buildItems {vs : List Term} {xs : List Operand}
    (h : buildItems vs place i = .ok xs) : ∀ v ∈ vs, v.Builds := by
  induction vs generalizing i xs with
  | nil => exact List.forall_mem_nil _
  | cons v r ih =>
    obtain ⟨x, hv, h⟩ := exists_of_bind_eq_ok h
    obtain ⟨ys, hr, _⟩ := exists_of_bind_eq_ok h
    exact List.forall_mem_cons.2 ⟨⟨_, x, hv⟩, ih hr⟩

theorem Case.builds_of_buildItems {cs : List Case} {xs : List (Operand × Operand)}
    (h : buildItems cs place i = .ok xs) : ∀ v ∈ cs.flatMap terms, v.Builds := by
  induction cs generalizing i xs with
  | nil => exact List.forall_mem_nil _
  | cons c r ih =>
    obtain ⟨key, result⟩ := c
    obtain ⟨x, hk, h⟩ := exists_of_bind_eq_ok h
    obtain ⟨y, hv, h⟩ := exists_of_bind_eq_ok h
    obtain ⟨ys, hr, _⟩ := exists_of_bind_eq_ok h
    rw [List.flatMap_cons, List.forall_mem_append, terms]
    exact ⟨by simpa using ⟨⟨_, x, hk⟩, ⟨_, y, hv⟩⟩, ih hr⟩

theorem Term.Builds.of_list {items : List Term} (h : (list items).Builds) :
    ∀ v ∈ items, v.Builds := by
  obtain ⟨place, x, h⟩ := h
  obtain ⟨xs, h, _⟩ := exists_of_bind_eq_ok h
  exact builds_of_buildItems h

theorem Json.isScalar_of_constant {v : Json} {t : DataType} {c : Value}
    (h : v.constant t = .ok c) : v.isScalar = true := by
  cases v <;> first | rfl | cases h

theorem Term.Builds.of_plain {v : Json} (h : (plain v).Builds) : v.isScalar = true := by
  obtain ⟨place, x, h⟩ := h
  obtain ⟨c, h, _⟩ := exists_of_bind_eq_ok h
  exact Json.isScalar_of_constant h

theorem Document.Builds.of_mem_parts {d : Document} (h : d.Builds) : ∀ v ∈ d.parts, v.Builds := by
  obtain ⟨place, r, h⟩ := h
  have hn {e : Document} {place : Place} {x : Expr} (h : e.build place = .ok x) :
      (Term.node e).Builds := Builds.node ⟨place, x, h⟩
  cases d with
  | column | value | now | countAll => exact List.forall_mem_nil _
  | arith e op v | concat e v =>
    obtain ⟨x, he, h⟩ := exists_of_bind_eq_ok h
    obtain ⟨y, hv, _⟩ := exists_of_bind_eq_ok h
    simp only [parts, List.forall_mem_cons]
    exact ⟨hn he, ⟨_, y, hv⟩, List.forall_mem_nil _⟩
  | concatAll e others separator =>
    obtain ⟨xs, ho, h⟩ := exists_of_bind_eq_ok h
    obtain ⟨x, he, _⟩ := exists_of_bind_eq_ok h
    simp only [parts, List.forall_mem_cons, List.forall_mem_map]
    exact ⟨hn he, fun o hm => (builds_of_buildItems ho o hm).node⟩
  | function e | convert e | parenthesis e | named e =>
    rw [build] at h
    obtain ⟨x, he, _⟩ := exists_of_bind_eq_ok h
    simpa [parts] using hn he
  | phrase e p params paramType t =>
    obtain ⟨x, he, h⟩ := exists_of_bind_eq_ok h
    obtain ⟨xs, hp, _⟩ := exists_of_bind_eq_ok h
    simp only [parts, List.forall_mem_cons]
    exact ⟨hn he, Term.builds_of_buildItems hp⟩
  | call before e between other after =>
    rw [build] at h
    obtain ⟨x, he, h⟩ := exists_of_bind_eq_ok h
    cases other with
    | none => simpa [parts] using hn he
    | some o =>
      obtain ⟨y, ho, _⟩ := exists_of_bind_eq_ok h
      simpa [parts] using ⟨hn he, hn ho⟩
  | decode e cases otherwise t =>
    rw [build] at h
    obtain ⟨xs, hc, h⟩ := exists_of_bind_eq_ok h
    have hc := Case.builds_of_buildItems hc
    cases otherwise with
    | none =>
      obtain ⟨_, _, h⟩ := exists_of_bind_eq_ok h
      obtain ⟨x, he, _⟩ := exists_of_bind_eq_ok h
      simpa [parts, hn he] using hc
    | some v =>
      obtain ⟨y, hv, h⟩ := exists_of_bind_eq_ok h
      obtain ⟨x, he, _⟩ := exists_of_bind_eq_ok h
      have hv : v.Builds := by
        cases hb : v.build (3 :: place) with
        | ok w => exact ⟨_, w, hb⟩
        | error _ =>
          rw [hb] at hv
          cases hv
      simp only [parts, List.forall_mem_cons, List.forall_mem_append]
      exact ⟨hn he, hc, by simpa using hv⟩

end

end ColumnSql
