import ColumnSql.Document.Encoding
import ColumnSql.Proofs.Document.Reading

/-! Documents as they are written. Each kind of node is read back from an object of its fields,
whatever its parts are written as; so a node that is written from parts that are read back as they
are is read back as it is. -/

namespace ColumnSql

namespace Reading

@[simp] theorem text?_string (s : String) : (ofJson (.string s)).text? = some s := rfl

@[simp] theorem isNull_string (s : String) : (ofJson (.string s)).isNull = false := rfl

@[simp] theorem flag?_bool (b : Bool) : (ofJson (.bool b)).flag? = some b := rfl

@[simp] theorem kind?_key (k : Document.Kind) : (ofJson (.string k.key)).kind? = some k :=
  Document.Kind.ofKey?_key k

@[simp] theorem dataType?_key (t : DataType) : (ofJson (.string t.key)).dataType? = some t :=
  DataType.ofKey?_key t

@[simp] theorem operator?_symbol (o : Operator) :
    (ofJson (.string o.symbol)).operator? = some o := Operator.ofSymbol?_symbol o

@[simp] theorem phrase?_key (p : Phrase) : (ofJson (.string p.key)).phrase? = some p :=
  Phrase.ofExactKey?_key p

theorem isNull_eq_false_iff {v : Json} : (ofJson v).isNull = false ↔ v ≠ .null := by
  cases v <;> simp [ofJson, ofScalar, ofArray, ofObject, isNull]

theorem items_array (items : List Json) :
    (ofJson (.array items)).items = some (items.map ofJson) := by
  rw [ofJson_array]
  rfl

@[simp] theorem terms?_array (items : List Json) :
    (ofJson (.array items)).terms? = some (items.map fun v => (ofJson v).term) := by
  simp [terms?, items_array]

theorem nodes?_array {items : List Json} {es : List Document}
    (h : items.map (fun v => (ofJson v).node) = es.map some) :
    (ofJson (.array items)).nodes? = some es := by
  rw [nodes?, items_array]
  exact mapM_eq_some_iff.2 (by rwa [List.map_map])

theorem cases?_array {items : List Json} {cs : List Case}
    (h : items.map (fun v => (ofJson v).case) = cs.map some) :
    (ofJson (.array items)).cases? = some cs := by
  rw [cases?, items_array]
  exact mapM_eq_some_iff.2 (by rwa [List.map_map])

theorem case_object (key result : Json) :
    (ofJson (.object [("when", key), ("then", result)])).case =
      some (.mk (ofJson key).term (ofJson result).term) := by
  simp [ofJson_object, ofObject, caseOfFields?, Fields.need?, Fields.find?, term?]

end Reading

open Reading

namespace Document

theorem node_kind (k : Kind) (fields : List (String × Json)) :
    (ofJson (k.object fields)).node =
      ofFields? (("kind", ofJson (.string k.key)) :: fields.map fun f => (f.1, ofJson f.2)) := by
  rw [Kind.object, node_object, List.map_cons]

section

variable {e v : Json} {d : Document} {x : Term}

-- the names of the fields are literals, so that each is looked up by computing
attribute [local simp] node_kind ofFields? Kind.document? Fields.need? Fields.may? Fields.get?
  Fields.find? textField textField? typeField typeField? itemsField? term?

theorem node_column (name : String) (table : Option String) (t : DataType) :
    (ofJson (Kind.column.object (textField "name" name :: textField? "table" table ++
      [typeField t]))).node = some (.column name table t) := by
  cases table <;> simp

theorem node_value {v : Json} (h : v.isScalar = true) (t : DataType) :
    (ofJson (Kind.value.object [("value", v), typeField t])).node = some (.value v t) := by
  have hv : (ofJson v).json = v := by rw [ofJson_scalar h]; rfl
  simp [hv]

theorem node_now (t : DataType) :
    (ofJson (Kind.now.object [typeField t])).node = some (.now t) := by
  simp

theorem node_arith (he : (ofJson e).node = some d) (op : Operator) (hv : (ofJson v).term = x) :
    (ofJson (Kind.arith.object [("expr", e), textField "op" op.symbol, ("value", v)])).node =
      some (.arith d op x) := by
  simp [he, hv]

theorem node_concat (he : (ofJson e).node = some d) (hv : (ofJson v).term = x) :
    (ofJson (Kind.concat.object [("expr", e), ("value", v)])).node = some (.concat d x) := by
  simp [he, hv]

theorem node_concatAll {others : List Json} {ds : List Document} (he : (ofJson e).node = some d)
    (ho : others.map (fun v => (ofJson v).node) = ds.map some) (separator : Option String) :
    (ofJson (Kind.concatAll.object (("expr", e) :: ("others", .array others) ::
      textField? "separator" separator))).node = some (.concatAll d ds separator) := by
  have ho := nodes?_array ho
  cases separator <;> simp [he, ho]

theorem node_countAll : (ofJson (Kind.countAll.object [])).node = some .countAll := by
  simp

theorem node_function (he : (ofJson e).node = some d) (template : String) (t : Option DataType)
    (aggregate : Bool) :
    (ofJson (Kind.function.object (("expr", e) :: textField "template" template ::
      typeField? "data_type" t ++ [("aggregate", .bool aggregate)]))).node =
        some (.function d template t aggregate) := by
  cases t <;> simp [he]

theorem node_phrase (he : (ofJson e).node = some d) (p : Phrase) (params : List Json)
    (paramType t : Option DataType) :
    (ofJson (Kind.phrase.object (("expr", e) :: textField "phrase" p.key ::
      itemsField? "params" params ++ typeField? "param_type" paramType ++
      typeField? "data_type" t))).node =
        some (.phrase d p (params.map fun v => (ofJson v).term) paramType t) := by
  cases params <;> cases paramType <;> cases t <;> simp [he]

theorem node_call (before : String) (he : (ofJson e).node = some d) (between : String)
    (after : String) :
    (ofJson (Kind.call.object [textField "prefix" before, ("expr", e),
      textField "middle" between, textField "postfix" after])).node =
        some (.call before d between none after) := by
  simp [he]

theorem node_callTwo (before : String) (he : (ofJson e).node = some d) (between : String)
    {o : Document} (hv : (ofJson v).node = some o) (after : String) :
    (ofJson (Kind.call.object [textField "prefix" before, ("expr", e),
      textField "middle" between, ("other", v), textField "postfix" after])).node =
        some (.call before d between (some o) after) := by
  have hn : (ofJson v).isNull = false := by
    refine isNull_eq_false_iff.2 ?_
    rintro rfl
    cases hv
  simp [he, hv, hn]

theorem node_decode {cases : List Json} {cs : List Case} (he : (ofJson e).node = some d)
    (hc : cases.map (fun v => (ofJson v).case) = cs.map some) (t : DataType) :
    (ofJson (Kind.decode.object [("expr", e), ("cases", .array cases), typeField t])).node =
      some (.decode d cs none t) := by
  have hc := cases?_array hc
  simp [he, hc]

theorem node_decodeElse {cases : List Json} {cs : List Case} (he : (ofJson e).node = some d)
    (hc : cases.map (fun v => (ofJson v).case) = cs.map some) (hn : (ofJson v).isNull = false)
    (hv : (ofJson v).term = x) (t : DataType) :
    (ofJson (Kind.decode.object [("expr", e), ("cases", .array cases), ("else", v),
      typeField t])).node = some (.decode d cs (some x) t) := by
  have hc := cases?_array hc
  simp [he, hc, hn, hv]

theorem node_convert (he : (ofJson e).node = some d) (t : DataType) (format : Option String) :
    (ofJson (Kind.convert.object (("expr", e) :: typeField t ::
      textField? "format" format))).node = some (.convert d t format) := by
  cases format <;> simp [he]

theorem node_parenthesis (he : (ofJson e).node = some d) :
    (ofJson (Kind.parenthesis.object [("expr", e)])).node = some (.parenthesis d) := by
  simp [he]

theorem node_named (he : (ofJson e).node = some d) (name : String) :
    (ofJson (Kind.named.object [("expr", e), textField "alias" name])).node =
      some (.named d name) := by
  simp [he]

end

theorem toJsonItems_eq (es : List Document) : toJsonItems es = es.map toJson := by
  induction es with
  | nil => rfl
  | cons e r ih => rw [toJsonItems, ih, List.map_cons]

end Document

theorem Term.toJsonItems_eq (vs : List Term) : toJsonItems vs = vs.map toJson := by
  induction vs with
  | nil => rfl
  | cons v r ih => rw [toJsonItems, ih, List.map_cons]

theorem Case.toJsonItems_eq (cs : List Case) : toJsonItems cs = cs.map toJson := by
  induction cs with
  | nil => rfl
  | cons c r ih => rw [toJsonItems, ih, List.map_cons]

def Term.RoundTrips (v : Term) : Prop := (ofJson v.toJson).term = v

namespace Term

theorem roundTrips_node {e : Document} :
    (node e).RoundTrips ↔ (ofJson e.toJson).node = some e := term_eq_node_iff ..

theorem roundTrips_plain {v : Json} (h : v.isScalar = true) : (plain v).RoundTrips := by
  rw [RoundTrips, toJson, ofJson_scalar h]
  rfl

theorem map_term_toJsonItems {vs : List Term} (h : ∀ v ∈ vs, v.RoundTrips) :
    (toJsonItems vs).map (fun v => (ofJson v).term) = vs := by
  rw [toJsonItems_eq, List.map_map]
  exact (List.map_congr_left h).trans (List.map_id' vs)

/-- A list is read as one unless it can be a node. -/
theorem roundTrips_list {items : List Term} (h : ∀ v ∈ items, v.RoundTrips)
    (hn : (ofJson (list items).toJson).node = none) : (list items).RoundTrips := by
  rw [RoundTrips, toJson, term_array hn, map_term_toJsonItems h]

end Term

theorem Case.case_toJson {c : Case} (h : ∀ v ∈ c.terms, v.RoundTrips) :
    (ofJson c.toJson).case = some c := by
  obtain ⟨key, result⟩ := c
  have hk : key.RoundTrips := h key (by simp [terms])
  have hr : result.RoundTrips := h result (by simp [terms])
  rw [toJson, case_object, hk, hr]

theorem Case.map_case_toJsonItems {cs : List Case}
    (h : ∀ v ∈ cs.flatMap terms, v.RoundTrips) :
    (toJsonItems cs).map (fun v => (ofJson v).case) = cs.map some := by
  rw [toJsonItems_eq, List.map_map]
  refine List.map_congr_left fun c hc => case_toJson fun v hv => h v ?_
  exact List.mem_flatMap.2 ⟨c, hc, hv⟩

namespace Document

theorem map_node_toJsonItems {es : List Document} (h : ∀ e ∈ es, (Term.node e).RoundTrips) :
    (toJsonItems es).map (fun v => (ofJson v).node) = es.map some := by
  rw [toJsonItems_eq, List.map_map]
  exact List.map_congr_left fun e he => Term.roundTrips_node.1 (h e he)

/-- The constant of a node is a scalar, and the operand for all other keys is not the null that
stands for none. -/
def Proper : Document → Prop
  | value v _ => v.isScalar = true
  | decode _ _ (some v) _ => v ≠ .plain .null
  | _ => True

theorem decode_toJson {e : Document} {cs cs' : List Case} {otherwise : Option Term}
    (he : (ofJson e.toJson).node = some e)
    (hc : (Case.toJsonItems cs).map (fun v => (ofJson v).case) = cs'.map some)
    (ho : ∀ v ∈ otherwise, v.RoundTrips ∧ v ≠ .plain .null) (t : DataType) :
    (ofJson (decode e cs otherwise t).toJson).node = some (.decode e cs' otherwise t) := by
  cases otherwise with
  | none => exact node_decode he hc t
  | some v =>
    obtain ⟨hv, hn⟩ := ho v rfl
    have hz : (ofJson v.toJson).isNull = false := by
      refine isNull_eq_false_iff.2 fun hz => hn ?_
      rw [← hv, hz]
      rfl
    exact node_decodeElse he hc hz hv t

theorem node_toJson {d : Document} (hd : d.Proper) (hp : ∀ v ∈ d.parts, v.RoundTrips) :
    (ofJson d.toJson).node = some d := by
  have hn (e : Document) (h : .node e ∈ d.parts) : (ofJson e.toJson).node = some e :=
    Term.roundTrips_node.1 (hp _ h)
  cases d with
  | column name table t => exact node_column name table t
  | value v t => exact node_value hd t
  | now t => exact node_now t
  | arith e op v => exact node_arith (hn e (by simp [parts])) op (hp v (by simp [parts]))
  | concat e v => exact node_concat (hn e (by simp [parts])) (hp v (by simp [parts]))
  | concatAll e others separator =>
    have ho : ∀ o ∈ others, (Term.node o).RoundTrips := fun o ho => hp _ (by simp [parts, ho])
    exact node_concatAll (hn e (by simp [parts])) (map_node_toJsonItems ho) separator
  | countAll => exact node_countAll
  | function e template t aggregate =>
    exact node_function (hn e (by simp [parts])) template t aggregate
  | phrase e p params paramType t =>
    have hm : (Term.toJsonItems params).map (fun v => (ofJson v).term) = params :=
      Term.map_term_toJsonItems fun v hv => hp v (by simp [parts, hv])
    have h := node_phrase (hn e (by simp [parts])) p (Term.toJsonItems params) paramType t
    rwa [hm] at h
  | call before e between other after =>
    cases other with
    | none => exact node_call before (hn e (by simp [parts])) between after
    | some o =>
      exact node_callTwo before (hn e (by simp [parts])) between (hn o (by simp [parts])) after
  | decode e cases otherwise t =>
    have hc := Case.map_case_toJsonItems fun v hv =>
      hp v (List.mem_cons_of_mem _ (List.mem_append_left _ hv))
    refine decode_toJson (hn e (by simp [parts])) hc (fun v hv => ?_) t
    cases hv
    exact ⟨hp v (by simp [parts]), hd⟩
  | convert e t format => exact node_convert (hn e (by simp [parts])) t format
  | parenthesis e => exact node_parenthesis (hn e (by simp [parts]))
  | named e name => exact node_named (hn e (by simp [parts])) name

/-- A node is written as an object of its kind, which is not the object of a case. -/
theorem toJson_eq_object (d : Document) :
    ∃ k fields, d.toJson = Kind.object k fields ∧ ∀ f ∈ fields, f.1 ≠ "when" := by
  cases d with
  | column name table t =>
    cases table <;> exact ⟨_, _, rfl, by simp [textField, textField?, typeField]⟩
  | concatAll e others separator =>
    cases separator <;> exact ⟨_, _, rfl, by simp [textField?]⟩
  | function e template t aggregate =>
    cases t <;> exact ⟨_, _, rfl, by simp [textField, typeField?]⟩
  | phrase e p params paramType t =>
    cases params <;> cases paramType <;> cases t <;>
      exact ⟨_, _, rfl, by simp [textField, typeField?, itemsField?, Term.toJsonItems]⟩
  | call before e between other after =>
    cases other <;> exact ⟨_, _, rfl, by simp [textField]⟩
  | decode e cases otherwise t =>
    cases otherwise <;> exact ⟨_, _, rfl, by simp [typeField]⟩
  | convert e t format =>
    cases format <;> exact ⟨_, _, rfl, by simp [typeField, textField?]⟩
  | _ => exact ⟨_, _, rfl, by simp [textField, typeField]⟩

theorem ofJson?_toJson_eq_node (d : Document) : ofJson? d.toJson = (ofJson d.toJson).node := by
  obtain ⟨k, fields, he, -⟩ := d.toJson_eq_object
  have hk : d.toJson.hasNamedKind = true := by
    rw [he]
    rfl
  rw [ofJson?, if_pos hk]

end Document

end ColumnSql
