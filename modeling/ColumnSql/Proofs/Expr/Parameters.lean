import ColumnSql.Document.Building
import ColumnSql.Proofs.Expr.Built
import ColumnSql.Proofs.Expr.Spliced
import ColumnSql.Proofs.Literal.Check

/-! The parameters of functions of the dialect. A function has the same parameters in each built-in
dialect, wherever the template has their places. How many are given is not checked, as other
dialects may have other templates: a missing one is written as null, and one too many is not
written at all. Constants are checked at one type, and written at that of their place, which may be
another. -/

namespace ColumnSql

open Template

/-- the parameters of a function; the type is that of constants, where the function asks for one -/
def Phrase.parameters : Phrase → List (Option DataType)
  | coalesce | substring | indexOf | round | trunc | modulo | decode => [none]
  | substringLength | replace => [none, none]
  | indexOfFrom => [none, some .integer]
  | escape | format => [some .varchar]
  | _ => []

def Phrase.arity (p : Phrase) : Nat := p.parameters.length

def Phrase.places (p : Phrase) : List Placeholder :=
  p.parameters.mapIdx fun i hint => ⟨some i, hint⟩

section Places

theorem Phrase.mem_places {p : Phrase} {x : Placeholder} :
    x ∈ p.places ↔ ∃ i, x.index = some i ∧ p.parameters[i]? = some x.hint := by
  rw [places, List.mem_iff_getElem?]
  simp only [List.getElem?_mapIdx, Option.map_eq_some_iff]
  constructor
  · rintro ⟨i, hint, hi, rfl⟩
    exact ⟨i, rfl, hi⟩
  · rintro ⟨i, hx, hi⟩
    obtain ⟨index, hint⟩ := x
    cases hx
    exact ⟨i, hint, hi, rfl⟩

theorem Phrase.hint_of_mem_places {p : Phrase} {x : Placeholder} {i : Nat} (hx : x ∈ p.places)
    (hi : x.index = some i) : p.parameters[i]? = some x.hint := by
  obtain ⟨j, hj, hs⟩ := mem_places.1 hx
  obtain rfl := Option.some_inj.1 (hi.symm.trans hj)
  exact hs

theorem Phrase.exists_place_iff {p : Phrase} {i : Nat} :
    (∃ x ∈ p.places, x.index = some i) ↔ i < p.arity := by
  constructor
  · rintro ⟨x, hx, hi⟩
    exact (List.getElem?_eq_some_iff.1 (hint_of_mem_places hx hi)).1
  · intro h
    exact ⟨⟨some i, p.parameters[i]⟩, mem_places.2 ⟨i, rfl, List.getElem?_eq_getElem h⟩, rfl⟩

theorem Phrase.places_lt_iff (p : Phrase) (n : Nat) :
    (∀ x ∈ p.places, ∃ i < n, x.index = some i) ↔ p.arity ≤ n := by
  constructor
  · intro h
    refine Nat.le_of_not_lt fun hn => ?_
    obtain ⟨x, hx, hi⟩ := exists_place_iff.2 hn
    obtain ⟨j, hj, hx⟩ := h x hx
    obtain rfl := Option.some_inj.1 (hi.symm.trans hx)
    exact Nat.lt_irrefl n hj
  · intro h x hx
    obtain ⟨i, hi, -⟩ := mem_places.1 hx
    exact ⟨i, Nat.lt_of_lt_of_le (exists_place_iff.1 ⟨x, hx, hi⟩) h, hi⟩

theorem Phrase.lt_places_iff (p : Phrase) (n : Nat) :
    (∀ i < n, ∃ x ∈ p.places, x.index = some i) ↔ n ≤ p.arity := by
  simp only [exists_place_iff]
  constructor
  · intro h
    exact Nat.le_of_not_lt fun hn => Nat.lt_irrefl _ (h _ hn)
  · exact fun h i hi => Nat.lt_of_lt_of_le hi h

/-- No function asks for another type than that of texts, but for the start of a search. -/
theorem Phrase.hint_cases {p : Phrase} {i : Nat} {hint : Option DataType}
    (h : p.parameters[i]? = some hint) :
    hint = none ∨ hint = some .varchar ∨ p = .indexOfFrom ∧ i = 1 := by
  cases p <;> rcases i with _ | _ | i <;> simp_all [parameters]

theorem Phrase.placeholders_template (p : Phrase) (hp : p.takesOperand = true) :
    placeholders p.template = p.places := by
  revert hp
  cases p <;> decide +kernel

theorem Builtin.placeholders_template (b : Builtin) (p : Phrase) :
    b.template p = "" ∨ b.template p = p.template ∨
      (p.takesOperand = true → placeholders (b.template p) = p.places) := by
  cases b <;> cases p <;> first
    | exact .inl rfl
    | exact .inr (.inl rfl)
    | exact .inr (.inr (by decide +kernel))

/-- The places in the template of a function are those of its parameters. -/
theorem Builtin.placeholders_phrase (b : Builtin) {p : Phrase} (hp : p.takesOperand = true) :
    placeholders (Target.phrase ⟨some b.dialect⟩ p) = p.places := by
  rcases Target.phrase_eq_or b.dialect p with h | ⟨hn, h⟩
  · rw [h, p.placeholders_template hp]
  · have hn : b.template p ≠ "" := hn
    have h : Target.phrase ⟨some b.dialect⟩ p = b.template p := h
    rw [h]
    rcases b.placeholders_template p with he | ht | ht
    · exact absurd he hn
    · rw [ht, p.placeholders_template hp]
    · exact ht hp

end Places

section Filling

theorem Template.substitute_congr {arg arg' : Placeholder → String} {s : List Char}
    (h : ∀ x, .parameter x ∈ pieces s → arg x = arg' x) : substitute arg s = substitute arg' s := by
  have hp : (pieces s).map (Piece.text arg) = (pieces s).map (Piece.text arg') := by
    refine List.map_congr_left fun x hx => ?_
    cases x with
    | verbatim c => rfl
    | parameter x => exact congrArg String.toList (h x hx)
  rw [substitute, substitute, List.flatMap_def, List.flatMap_def, hp]

theorem Template.filled_congr {template : String} {arg arg' : Placeholder → String}
    (h : ∀ x ∈ placeholders template, arg x = arg' x) (operand : String) :
    filled template arg operand = filled template arg' operand := by
  rw [filled, filled, substitute_congr fun x hx => h x (mem_placeholders.2 (.inl hx)),
    substitute_congr fun x hx => h x (mem_placeholders.2 (.inr hx))]

end Filling

namespace Operand

/-- the parameters as exactly `n`: the first of them, and null for those that are missing -/
def fitted (n : Nat) (params : List Operand) : List Operand :=
  params.take n ++ List.replicate (n - params.length) (.value .null)

theorem getElem?_fitted {n i : Nat} (params : List Operand) (h : i < n) :
    (fitted n params)[i]? = some (params[i]?.getD (.value .null)) := by
  unfold fitted
  by_cases hi : i < params.length
  · rw [List.getElem?_append_left (by simp; omega), List.getElem?_take_of_lt h]
    simp [hi]
  · have hl : (params.take n).length = params.length := by
      rw [List.length_take]
      omega
    rw [List.getElem?_append_right (by omega), List.getElem?_replicate, if_pos (by omega),
      List.getElem?_eq_none (by omega)]
    rfl

theorem checkItems_eq_ok_iff {vs : List Operand} {t : DataType} :
    checkItems vs t = .ok () ↔ ∀ v ∈ vs, v.check t = .ok () := by
  induction vs with
  | nil => simp [checkItems]
  | cons v r ih =>
    rw [checkItems, List.forall_mem_cons, ← ih]
    split
    next h => simp [h]
    next h => simp [h]

theorem check_fitted {params : List Operand} {type : DataType} (n : Nat)
    (h : ∀ v ∈ params, v.check type = .ok ()) : ∀ v ∈ fitted n params, v.check type = .ok () := by
  intro v hv
  rcases List.mem_append.1 hv with hv | hv
  · exact h v (List.mem_of_mem_take hv)
  · rw [List.eq_of_mem_replicate hv]
    exact Value.check_of_isEmpty rfl type

end Operand

section Checks

variable {t u : DataType}

theorem Value.check_mono {v : Value} (hf : v.Fits t → v.Fits u) (h : v.check t = .ok ()) :
    v.check u = .ok () := by
  cases he : v.isEmpty with
  | true => exact check_of_isEmpty he _
  | false =>
    cases hr : v.isRaw with
    | true =>
      cases v with
      | raw s => exact check_raw s _
      | _ => cases hr
    | false => exact check_of_fits (hf (fits_of_check h he hr)) he hr

/-- A constant of any type can be written as a text. -/
theorem Value.check_varchar {v : Value} : v.check t = .ok () → v.check .varchar = .ok () := by
  refine check_mono fun ⟨_, hf⟩ => ⟨by decide, ?_⟩
  cases v with
  | float x => exact hf
  | decimal s => exact hf
  | text s => exact ⟨nofun, nofun⟩
  | time x => exact ⟨nofun, nofun, nofun⟩
  | date d => exact nofun
  | _ => trivial

theorem Value.check_integer {v : Value} (ht : t.isWhole = true) :
    v.check t = .ok () → v.check .integer = .ok () := by
  refine check_mono fun hf => ?_
  cases t with
  | integer => exact hf
  | autoInc =>
    refine ⟨by decide, ?_⟩
    cases v with
    | time x => exact ⟨nofun, nofun, nofun⟩
    | date d => exact nofun
    | _ => exact hf.2
  | _ => cases ht

mutual

theorem Operand.check_mono (hm : ∀ {v : Value}, v.check t = .ok () → v.check u = .ok ()) :
    ∀ {v : Operand}, v.check t = .ok () → v.check u = .ok ()
  | .expr _, _ => rfl
  | .value _, h => hm h
  | .list _, h => checkItems_mono hm h

theorem Operand.checkItems_mono (hm : ∀ {v : Value}, v.check t = .ok () → v.check u = .ok ()) :
    ∀ {vs : List Operand}, checkItems vs t = .ok () → checkItems vs u = .ok ()
  | [], _ => rfl
  | v :: r, h => by
    rw [checkItems] at h ⊢
    split at h
    next hv =>
      rw [check_mono hm hv]
      exact checkItems_mono hm h
    next => cases h

end

end Checks

theorem Expr.phrase_eq_ok_iff {e r : Expr} {p : Phrase} {params : List Operand} {type : DataType}
    {update : Option Column} {t : Option DataType} {place : Place} :
    e.phrase p params type update t place = .ok r ↔ p.takesOperand = true ∧
      (∀ v ∈ params, v.check type = .ok ()) ∧
      ofNode (.phrase e p params type update t) place = r := by
  rw [phrase, ← Operand.checkItems_eq_ok_iff]
  cases p.takesOperand with
  | false =>
    constructor
    · rintro ⟨⟩
    · rintro ⟨⟨⟩, -⟩
  | true =>
    cases Operand.checkItems params type with
    | error x =>
      constructor
      · rintro ⟨⟩
      · rintro ⟨-, ⟨⟩, -⟩
    | ok u => exact ⟨fun h => ⟨rfl, rfl, Except.ok.inj h⟩, fun h => congrArg Except.ok h.2.2⟩

/-- A call of a function of the dialect that is accepted, or such a node of a document, with the
operand and the parameters that it gets, the type of these and the expression that it makes. -/
inductive Accepted (e : Expr) (p : Phrase) (params : List Operand) : DataType → Expr → Prop
  | call {type : DataType} {update : Option Column} {t : Option DataType} {place : Place}
    {r : Expr} : e.phrase p params type update t place = .ok r → Accepted e p params type r
  | document {d : Document} {terms : List Term} {type t : Option DataType} {place : Place}
    {r : Expr} : d.build (1 :: place) = .ok e → Term.buildItems terms (2 :: place) 0 = .ok params →
    (Document.phrase d p terms type t).build place = .ok r →
    Accepted e p params (type.getD .unknown) r

namespace Accepted

variable {e r : Expr} {p : Phrase} {params : List Operand} {type : DataType}

theorem of_ofExprError {x : Except ExprError Expr} (h : ofExprError x = .ok r) : x = .ok r := by
  cases x with
  | ok r' =>
    cases h
    rfl
  | error _ => cases h

theorem exists_call (h : Accepted e p params type r) :
    ∃ update t place, e.phrase p params type update t place = .ok r := by
  cases h with
  | call h => exact ⟨_, _, _, h⟩
  | document he hp h =>
    rw [Document.build, he] at h
    change (Term.buildItems _ _ 0 >>= _) = _ at h
    rw [hp] at h
    exact ⟨_, _, _, of_ofExprError h⟩

theorem takesOperand (h : Accepted e p params type r) : p.takesOperand = true := by
  obtain ⟨update, dataType, place, h⟩ := h.exists_call
  exact (Expr.phrase_eq_ok_iff.1 h).1

theorem checked (h : Accepted e p params type r) : ∀ v ∈ params, v.check type = .ok () := by
  obtain ⟨update, dataType, place, h⟩ := h.exists_call
  exact (Expr.phrase_eq_ok_iff.1 h).2.1

theorem sql_eq (h : Accepted e p params type r) (t : Target) (ctx : Context) :
    r.sql t ctx =
      filled (t.phrase p) (t.argument (params.map (Operand.textFor t ctx.inner)) type)
        (e.sql t ctx.inner) := by
  obtain ⟨update, dataType, place, h⟩ := h.exists_call
  obtain ⟨-, -, rfl⟩ := Expr.phrase_eq_ok_iff.1 h
  rw [Expr.ofNode, Expr.sql_mk, Node.sql_phrase]

theorem exists_fitted (h : Accepted e p params type r) :
    ∃ r', Accepted e p (Operand.fitted p.arity params) type r' := by
  obtain ⟨update, dataType, place, h⟩ := h.exists_call
  obtain ⟨hp, hc, -⟩ := Expr.phrase_eq_ok_iff.1 h
  refine ⟨.ofNode (.phrase e p (Operand.fitted p.arity params) type update dataType) place, ?_⟩
  exact .call (Expr.phrase_eq_ok_iff.2 ⟨hp, Operand.check_fitted p.arity hc, rfl⟩)

end Accepted

section Arguments

variable {p : Phrase} {params : List Operand} {type : DataType}

theorem Builtin.literal_null (b : Builtin) (t : DataType) :
    b.dialect.literal .null t = Target.phrase ⟨some b.dialect⟩ .null := by
  have h : b.dialect.literal .null t = b.template .null :=
    Literal.ofValue_of_isEmpty b.template b.quoteText (v := .null) rfl t
  rw [h]
  cases b <;> rfl

theorem Builtin.argument_fitted (b : Builtin) (params : List Operand) (type : DataType)
    (ctx : Context) {x : Placeholder} (hx : x ∈ p.places) :
    let t : Target := ⟨some b.dialect⟩
    t.argument ((Operand.fitted p.arity params).map (Operand.textFor t ctx)) type x =
      t.argument (params.map (Operand.textFor t ctx)) type x := by
  intro t
  obtain ⟨i, hi, -⟩ := Phrase.mem_places.1 hx
  have hl : i < p.arity := Phrase.exists_place_iff.1 ⟨x, hx, hi⟩
  simp only [Target.argument, hi, Option.bind_some, List.getElem?_map,
    Operand.getElem?_fitted params hl]
  cases params[i]? with
  | some v => rfl
  | none =>
    have hn : Operand.textFor t ctx (.value .null) (x.hint.getD type) =
        t.literal .null (x.hint.getD type) := Operand.sql_value ..
    exact hn.trans (b.literal_null _)

/-- A parameter passes the check of the type that it is written as, except that the start of a
search is written as an integer, whatever it has been checked as. -/
theorem check_at_place_iff (hc : ∀ v ∈ params, v.check type = .ok ()) {x : Placeholder} {i : Nat}
    {v : Operand} (hx : x ∈ p.places) (hi : x.index = some i) (hv : params[i]? = some v) :
    v.check (x.hint.getD type) = .ok () ↔
      (p = .indexOfFrom → i = 1 → v.check .integer = .ok ()) := by
  have hv := hc v (List.mem_of_getElem? hv)
  have hs := Phrase.hint_of_mem_places hx hi
  constructor
  · rintro h rfl rfl
    rwa [← Option.some.inj hs] at h
  · intro h
    rcases Phrase.hint_cases hs with hn | hn | ⟨rfl, rfl⟩
    · rwa [hn]
    · rw [hn]
      exact Operand.check_mono Value.check_varchar hv
    · rw [← Option.some.inj hs]
      exact h rfl rfl

end Arguments

/-- The template of a function has the places of its parameters, in all built-in dialects the same.
So there is a parameter for each place exactly if as many are given as the function has, and a place
for each parameter exactly if no more are given. Whatever is given, the SQL is that of a call with
just as many, where null stands for those that are missing. A parameter that is written passes the
check of the type that it is written as. Only the start of a search need not: it is written as an
integer, and is known to be one where the parameters are checked as whole numbers. -/
theorem sql_phrase_parameters {e r : Expr} {p : Phrase} {params : List Operand} {type : DataType}
    (h : Accepted e p params type r) (b : Builtin) :
    let t : Target := ⟨some b.dialect⟩
    let places := placeholders (t.phrase p)
    places = p.places ∧
      ((∀ x ∈ places, ∃ i < params.length, x.index = some i) ↔ p.arity ≤ params.length) ∧
      ((∀ i < params.length, ∃ x ∈ places, x.index = some i) ↔ params.length ≤ p.arity) ∧
      (∃ r', Accepted e p (Operand.fitted p.arity params) type r' ∧
        ∀ ctx, r.sql t ctx = r'.sql t ctx) ∧
      (∀ x ∈ places, ∀ i v, x.index = some i → params[i]? = some v →
        (v.check (x.hint.getD type) = .ok () ↔
          (p = .indexOfFrom → i = 1 → v.check .integer = .ok ()))) ∧
      (type.isWhole = true → ∀ v ∈ params, v.check .integer = .ok ()) := by
  intro t places
  have hp : places = p.places := b.placeholders_phrase h.takesOperand
  rw [hp]
  refine ⟨rfl, p.places_lt_iff _, p.lt_places_iff _, ?_, ?_, ?_⟩
  · obtain ⟨r', h'⟩ := h.exists_fitted
    refine ⟨r', h', fun ctx => ?_⟩
    rw [h.sql_eq, h'.sql_eq]
    refine filled_congr (fun x hx => ?_) _
    exact (b.argument_fitted params type ctx.inner (hp ▸ hx)).symm
  · intro x hx i v hi hv
    exact check_at_place_iff h.checked hx hi hv
  · intro ht v hv
    exact Operand.check_mono (Value.check_integer ht) (h.checked v hv)

/-- A parameter of a function that has none, and a start of search that is an integer. -/
theorem sql_phrase_parameters_upper :
    let t : Target := ⟨some Builtin.generic.dialect⟩
    let a : Expr := .column ⟨none, "A", .varchar⟩ [0]
    (∃ r, Accepted a .upper [.ofText "x"] .varchar r ∧ r.sql t .standard = "upper(A)" ∧
      ¬ ∀ i < 1, ∃ x ∈ placeholders (t.phrase .upper), x.index = some i) ∧
    ∃ r, Accepted a .indexOfFrom [.ofText "1", .ofText " +2"] .autoInc r ∧
      r.sql t .standard = "charindex(1, A, 2)" ∧
      (Operand.ofText " +2").check .integer = .ok () := by
  intro t a
  have h : Accepted a .upper [.ofText "x"] .varchar
      (.ofNode (.phrase a .upper [.ofText "x"] .varchar none none) [1]) := .call rfl
  have hs : Accepted a .indexOfFrom [.ofText "1", .ofText " +2"] .autoInc
      (.ofNode (.phrase a .indexOfFrom [.ofText "1", .ofText " +2"] .autoInc none none) [1]) :=
    .call rfl
  obtain ⟨-, -, hi, -⟩ := sql_phrase_parameters h .generic
  obtain ⟨-, -, -, -, -, hw⟩ := sql_phrase_parameters hs .generic
  exact ⟨⟨_, h, by decide +kernel, fun hn => absurd (hi.1 hn) (by decide)⟩,
    _, hs, by decide +kernel, hw rfl _ (by simp)⟩

/-- A start of search that is a word: it is accepted, as it is checked as a text, and written as a
text where an integer stands. The function of its own for searches does not take it. -/
theorem indexOf_start_text :
    let t : Target := ⟨some Builtin.generic.dialect⟩
    let a : Expr := .column ⟨none, "A", .varchar⟩ [0]
    let start : Operand := .ofText "two"
    (∃ r, Accepted a .indexOfFrom [.ofText "x", start] .varchar r ∧
      r.sql t .standard = "charindex('x', A, 'two')" ∧
      ⟨some 1, some .integer⟩ ∈ placeholders (t.phrase .indexOfFrom)) ∧
    start.check .integer ≠ .ok () ∧
    ∃ x, a.indexOfFrom (.ofText "x") start [1] = .error x := by
  intro t a start
  have h : Accepted a .indexOfFrom [.ofText "x", start] .varchar
      (.ofNode (.phrase a .indexOfFrom [.ofText "x", start] .varchar none none) [1]) := .call rfl
  have hc : ∃ x, start.check .integer = .error x := ⟨_, rfl⟩
  obtain ⟨x, hx⟩ := hc
  refine ⟨⟨_, h, by decide +kernel, by decide +kernel⟩, by simp [hx], x, ?_⟩
  rw [Expr.indexOfFrom, hx]
  rfl

end ColumnSql
