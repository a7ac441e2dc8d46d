import ColumnSql.Proofs.Expr.Decode
import ColumnSql.Proofs.Expr.Mapping
import ColumnSql.Proofs.Expr.OperandTexts
import ColumnSql.Proofs.Lexical.Arguments

/-! A decode as a function with arguments. The places of the arguments say what they are: a key, its
result, the next key. An operand that is a list has its items there as arguments of their own. -/

namespace ColumnSql

open Lexical (Quotes isArgument arguments standard)

theorem join_map_join {α : Type} (l : List α) (f : α → List String) :
    String.join (l.map fun x => String.join (f x)) = String.join (l.flatMap f) := by
  apply String.toList_injective
  simp [String.toList_join, List.flatMap_map, List.flatMap_assoc]

section

variable {α β : Type} {f : α → List β} {l : List α}

theorem length_le_length_flatMap (hf : ∀ x ∈ l, 0 < (f x).length) :
    l.length ≤ (l.flatMap f).length := by
  induction l with
  | nil => exact Nat.le_refl 0
  | cons x r ih =>
    have hx := hf x (List.mem_cons_self ..)
    have hr := ih fun y hy => hf y (List.mem_cons_of_mem _ hy)
    rw [List.flatMap_cons, List.length_append, List.length_cons]
    omega

theorem length_flatMap_eq_iff (hf : ∀ x ∈ l, 0 < (f x).length) :
    (l.flatMap f).length = l.length ↔ ∀ x ∈ l, (f x).length = 1 := by
  induction l with
  | nil => simp
  | cons x r ih =>
    have hx := hf x (List.mem_cons_self ..)
    have hr : ∀ y ∈ r, 0 < (f y).length := fun y hy => hf y (List.mem_cons_of_mem _ hy)
    have hl := length_le_length_flatMap hr
    rw [List.flatMap_cons, List.length_append, List.length_cons, List.forall_mem_cons, ← ih hr]
    omega

end

namespace Operand

/-- Each expression and each raw constant in the operand is one argument. -/
inductive Separate (q : Quotes) (t : Target) (ctx : Context) : Operand → Prop
  | expr {e : Expr} : isArgument q (e.sql t ctx) = true → Separate q t ctx (.expr e)
  | raw {s : String} : isArgument q s = true → Separate q t ctx (.value (.raw s))
  | value {v : Value} : v.isRaw = false → Separate q t ctx (.value v)
  | list {items : List Operand} : (∀ v ∈ items, Separate q t ctx v) → Separate q t ctx (.list items)

/-- Where the SQL of the caller is cut in no argument, an operand is cut at the commas of its lists
only. -/
theorem Separate.isArgument {b : Builtin} {ctx : Context} {v : Operand}
    (h : v.Separate b.quotes ⟨some b.dialect⟩ ctx) (type : DataType) :
    ∀ s ∈ v.argumentTexts type ⟨some b.dialect⟩ ctx, isArgument b.quotes s = true := by
  induction h with
  | expr h | raw h => exact List.forall_mem_singleton.2 h
  | value h => exact List.forall_mem_singleton.2 (Lexical.isArgument_literal b h type)
  | @list items _ ih =>
    cases items with
    | nil => exact List.forall_mem_singleton.2 rfl
    | cons x r =>
      rw [argumentTexts, itemTexts_eq, ← List.flatMap_cons]
      intro s hs
      obtain ⟨v, hv, hs⟩ := List.mem_flatMap.1 hs
      exact ih v hv s hs

end Operand

section

variable (k type : DataType) (pairs : List (Operand × Operand)) (otherwise : Option Operand)

theorem Expr.length_decodeItems : (decodeItems k type pairs otherwise).length =
    2 * pairs.length + otherwise.toList.length := by
  simp [decodeItems, List.length_flatMap, List.map_const', Nat.mul_comm]

theorem DecodeWords.text_function (condition : String) (sql : Operand → DataType → String) :
    function.text condition (pairs.map fun x => (sql x.1 k, sql x.2 type))
        (otherwise.map fun v => sql v type) =
      "decode" ++ "(" ++ condition ++
        String.join ((Expr.decodeItems k type pairs otherwise).map
          fun x => ", " ++ sql x.1 x.2) ++ ")" := by
  have hp : String.join ((pairs.map fun x => (sql x.1 k, sql x.2 type)).map function.branch) =
      String.join ((pairs.flatMap fun x => [(x.1, k), (x.2, type)]).map
        fun x => ", " ++ sql x.1 x.2) := by
    induction pairs with
    | nil => rfl
    | cons x r ih =>
      rw [List.map_cons, List.map_cons, String.join_cons, ih]
      simp [branch, function, String.append_assoc]
  have hl : function.last (otherwise.map fun v => sql v type) =
      String.join ((otherwise.toList.map (·, type)).map fun x => ", " ++ sql x.1 x.2) := by
    cases otherwise <;> simp [last, function]
  rw [text, hp, hl, Expr.decodeItems, List.map_append, String.join_append]
  rfl

end

def Branch.pairs (branches : List Branch) : List (Operand × Operand) :=
  branches.map fun b => (b.key, b.result)

theorem Target.HasWords.sql_decode_function {t : Target} (h : t.HasWords .function) (e : Expr)
    (branches : List Branch) (otherwise : Option Operand) (type : DataType) (ctx : Context) :
    (Node.decode e branches otherwise type).sql t ctx =
      "decode" ++ "(" ++ e.sql t ctx.inner ++
        String.join (((Expr.decodeItems e.dataType type (Branch.pairs branches) otherwise).flatMap
          fun x => x.1.argumentTexts x.2 t ctx.inner).map (", " ++ ·)) ++ ")" := by
  have hp : (Node.decode e branches otherwise type).sql t ctx =
      DecodeWords.function.text (e.sql t ctx.inner)
        ((Branch.pairs branches).map fun x =>
          (x.1.sql e.dataType ", " t ctx.inner, x.2.sql type ", " t ctx.inner))
        (otherwise.map fun v => v.sql type ", " t ctx.inner) := by
    rw [h.sql_decode, Branch.pairs, List.map_map]
    rfl
  rw [hp, DecodeWords.text_function e.dataType type _ _ _ fun v type => v.sql type ", " t ctx.inner]
  simp only [Operand.separator_sql, join_map_join, List.map_flatMap]

/-- The arguments of a decode in Oracle, told apart by the commas outside of quotes and of inner
parentheses, are the condition and the texts of the operands, if the condition and what there is of
expressions and raw constants in the operands is one argument each. There are as many as there are
operands, two for each branch and one for the other keys, exactly if each operand is one argument;
then each stands in its place. -/
theorem sql_decode_arguments (place : Place) (attributes : Attributes) (e : Expr)
    (branches : List Branch) (otherwise : Option Operand) (type : DataType) (ctx : Context)
    (he : isArgument standard (e.sql ⟨some Builtin.oracle.dialect⟩ ctx.inner) = true)
    (ho : ∀ x ∈ Expr.decodeItems e.dataType type (Branch.pairs branches) otherwise,
      x.1.Separate standard ⟨some Builtin.oracle.dialect⟩ ctx.inner) :
    let t : Target := ⟨some Builtin.oracle.dialect⟩
    let operands := Expr.decodeItems e.dataType type (Branch.pairs branches) otherwise
    let texts := operands.flatMap fun x => x.1.argumentTexts x.2 t ctx.inner
    arguments standard ((Expr.mk place attributes (.decode e branches otherwise type)).sql t ctx) =
        some (e.sql t ctx.inner :: texts.map (" " ++ ·)) ∧
      operands.length = 2 * branches.length + otherwise.toList.length ∧
      (texts.length = operands.length ↔ ∀ x ∈ operands, x.1.isSingle = true) ∧
      ((∀ x ∈ operands, x.1.isSingle = true) →
        texts = operands.map fun x => x.1.sql x.2 ", " t ctx.inner) := by
  intro t operands texts
  have hw : t.HasWords .function := .builtin .oracle
  have hpos : ∀ x ∈ operands, 0 < (x.1.argumentTexts x.2 t ctx.inner).length :=
    fun x _ => x.1.argumentTexts_length_pos x.2 t ctx.inner
  have htexts : ∀ s ∈ texts, isArgument standard s = true := by
    intro s hs
    obtain ⟨x, hx, hs⟩ := List.mem_flatMap.1 hs
    have hx : x.1.Separate Builtin.oracle.quotes t ctx.inner := ho x hx
    exact hx.isArgument x.2 s hs
  refine ⟨?_, ?_, ?_, fun h => ?_⟩
  · rw [Expr.sql_mk, hw.sql_decode_function]
    exact Lexical.arguments_call (by decide) he htexts
  · rw [Expr.length_decodeItems, Branch.pairs, List.length_map]
  · rw [length_flatMap_eq_iff hpos]
    simp only [Operand.argumentTexts_length_eq_one_iff]
  · have hx : operands.map (fun x => x.1.argumentTexts x.2 t ctx.inner) =
        operands.map fun x => [x.1.sql x.2 ", " t ctx.inner] :=
      List.map_congr_left fun x hx => Operand.argumentTexts_of_isSingle x.2 t ctx.inner (h x hx)
    rw [List.map_eq_flatMap, List.flatMap_def, ← hx, ← List.flatMap_def]

/-- a text with a comma, SQL with a comma in its parentheses, and a column -/
theorem sql_decode_arguments_texts :
    let t : Target := ⟨some Builtin.oracle.dialect⟩
    let a : Expr := .column ⟨none, "A", .varchar⟩ [0]
    let b : Expr := .column ⟨none, "B", .varchar⟩ [1]
    let branches : List Branch := [.mk (.ofText "1, (") (.value (.raw "f(1, 2)"))]
    let operands := Expr.decodeItems a.dataType .varchar (Branch.pairs branches) (some (.expr b))
    (isArgument standard (a.sql t Context.standard.inner) = true ∧
      ∀ x ∈ operands, x.1.Separate standard t Context.standard.inner) ∧
    arguments standard
        ((Expr.mk [2] [] (.decode a branches (some (.expr b)) .varchar)).sql t .standard) =
      some ["A", " '1, ('", " f(1, 2)", " B"] := by
  intro t a b branches operands
  have ha : isArgument standard (a.sql t Context.standard.inner) = true := by decide +kernel
  have hb : isArgument standard (b.sql t Context.standard.inner) = true := by decide +kernel
  have ho : ∀ x ∈ operands, x.1.Separate standard t Context.standard.inner :=
    List.forall_mem_cons.2 ⟨.value rfl,
      List.forall_mem_cons.2 ⟨.raw rfl, List.forall_mem_singleton.2 (.expr hb)⟩⟩
  have h := (sql_decode_arguments [2] [] a branches (some (.expr b)) .varchar .standard ha ho).1
  exact ⟨⟨ha, ho⟩, h.trans (by decide +kernel)⟩

/-- The items of a list take the places of others: here the result of the key `1` is `2`. -/
theorem sql_decode_list_key :
    let t : Target := ⟨some Builtin.oracle.dialect⟩
    let a : Expr := .column ⟨none, "A", .integer⟩ [0]
    let key : Operand := .list [.ofInt 1, .ofInt 2]
    let branches : List Branch := [.mk key (.ofText "x")]
    let d : Expr := .mk [1] [] (.decode a branches none .varchar)
    a.decode [(key, .ofText "x")] none .varchar [1] = .ok d ∧
      d.sql t .standard = "decode(A, 1, 2, 'x')" ∧
      arguments standard (d.sql t .standard) = some ["A", " 1", " 2", " 'x'"] ∧
      (arguments standard (d.sql t .standard)).map List.length ≠
        some (1 + 2 * branches.length) := by
  intro t a key branches d
  have hd : d.sql t .standard = "decode(A, 1, 2, 'x')" := by decide +kernel
  have ha : arguments standard "decode(A, 1, 2, 'x')" = some ["A", " 1", " 2", " 'x'"] := by
    decide +kernel
  rw [hd, ha]
  exact ⟨rfl, rfl, rfl, by decide⟩

end ColumnSql
