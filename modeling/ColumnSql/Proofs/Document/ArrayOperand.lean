import ColumnSql.Document.Building
import ColumnSql.Proofs.Document.Encoding

/-! Arrays of scalars as operands. Since an operand that can be a node is one, and nodes have a form
as arrays, not each array of scalars is a list: the kinds that need no node take some of them. -/

namespace ColumnSql

open Reading

namespace Document

def columnOf? : List Json → Option Document
  | [.string name] | [.string name, .null] => some (.column name none .unknown)
  | [.string name, .string table] => some (.column name (some table) .unknown)
  | [.string name, .null, .string t] => do return .column name none (← DataType.ofKey? t)
  | [.string name, .string table, .string t] => do
    return .column name (some table) (← DataType.ofKey? t)
  | _ => none

def valueOf? : List Json → Option Document
  | [v] => some (.value v .unknown)
  | [v, .string t] => do return .value v (← DataType.ofKey? t)
  | _ => none

def nowOf? : List Json → Option Document
  | [] => some (.now .dateTime)
  | [.string t] => do return .now (← DataType.ofKey? t)
  | _ => none

/-- the node of a kind with scalars as its first fields, for the kinds that need no other node -/
def Kind.ofScalars? (k : Kind) (fields : List Json) : Option Document :=
  match k with
  | .column => columnOf? fields
  | .value => valueOf? fields
  | .now => nowOf? fields
  | .countAll => if fields = [] then some .countAll else none
  | _ => none

def ofScalars? : List Json → Option Document
  | [] => none
  | tag :: fields => (ofJson tag).kind?.bind fun k => k.ofScalars? fields

end Document

def Term.ofScalars (vs : List Json) : Term :=
  match Document.ofScalars? vs with
  | some d => .node d
  | none => .list (vs.map .plain)

theorem Fields.need_node_eq_none {fs : Fields} (h : ∀ f ∈ fs, f.2.node = none) (name : String) :
    fs.need? name Reading.node = none := by
  rw [Option.eq_none_iff_forall_ne_some]
  intro d hd
  obtain ⟨r, hr, hd⟩ := exists_of_need hd
  rw [h _ hr] at hd
  cases hd

namespace Reading

/-- Without a node among the fields, there are four kinds that a node can have. -/
theorem document?_eq_none {k : Document.Kind} {fs : Fields} (hf : ∀ f ∈ fs, f.2.node = none)
    (hk : k ∉ [.column, .value, .now, .countAll]) : k.document? fs = none := by
  have he := Fields.need_node_eq_none hf "expr"
  cases k <;> simp [Document.Kind.document?, he] at hk ⊢

def ofRest? (k : Document.Kind) (fields : List Reading) : Option Document :=
  if k.fields.length < fields.length then none else k.document? (k.fields.zip fields)

theorem ofItems?_cons (tag : Reading) (rest : List Reading) :
    ofItems? (tag :: rest) = tag.kind?.bind fun k => ofRest? k rest := rfl

section

variable {fields : List Json} (h : ∀ v ∈ fields, v.isScalar = true)
include h

theorem ofRest?_column :
    ofRest? .column (fields.map ofJson) = Document.columnOf? fields := by
  match fields, h with
  | [], _ => rfl
  | [a], _ => cases a <;> rfl
  | [a, b], _ => cases a <;> cases b <;> rfl
  | [a, b, c], h =>
    cases a <;> cases b <;> cases c <;> first | rfl | simp [Json.isScalar] at h
  | _ :: _ :: _ :: _ :: _, _ => simp [ofRest?, Document.Kind.fields, Document.columnOf?]

theorem ofRest?_value :
    ofRest? .value (fields.map ofJson) = Document.valueOf? fields := by
  match fields, h with
  | [], _ => rfl
  | [a], h => cases a <;> first | rfl | simp [Json.isScalar] at h
  | [a, b], h => cases a <;> cases b <;> first | rfl | simp [Json.isScalar] at h
  | _ :: _ :: _ :: _, _ => simp [ofRest?, Document.Kind.fields, Document.valueOf?]

theorem ofRest?_now :
    ofRest? .now (fields.map ofJson) = Document.nowOf? fields := by
  match fields, h with
  | [], _ => rfl
  | [a], h => cases a <;> first | rfl | simp [Json.isScalar] at h
  | _ :: _ :: _, _ => simp [ofRest?, Document.Kind.fields, Document.nowOf?]

theorem ofRest?_scalars (k : Document.Kind) :
    ofRest? k (fields.map ofJson) = k.ofScalars? fields := by
  have hn : ∀ f ∈ k.fields.zip (fields.map ofJson), f.2.node = none := by
    intro f hf
    obtain ⟨v, hv, he⟩ := List.mem_map.1 (List.of_mem_zip hf).2
    rw [← he, ofJson_scalar (h v hv)]
    rfl
  cases k with
  | column => exact ofRest?_column h
  | value => exact ofRest?_value h
  | now => exact ofRest?_now h
  | countAll => cases fields <;> rfl
  | _ =>
    rw [ofRest?, document?_eq_none hn (by simp), ite_self]
    rfl

end

theorem ofItems?_scalars {vs : List Json} (h : ∀ v ∈ vs, v.isScalar = true) :
    ofItems? (vs.map ofJson) = Document.ofScalars? vs := by
  cases vs with
  | nil => rfl
  | cons tag fields =>
    rw [List.map_cons, ofItems?_cons, Document.ofScalars?]
    exact Option.bind_congr fun k _ => ofRest?_scalars (fun v hv => h v (.tail _ hv)) k

theorem term_scalars {vs : List Json} (h : ∀ v ∈ vs, v.isScalar = true) :
    (ofJson (.array vs)).term = Term.ofScalars vs := by
  have hn : (ofJson (.array vs)).node = Document.ofScalars? vs := by
    rw [node_array, ofItems?_scalars h]
  rw [Term.ofScalars]
  cases hd : Document.ofScalars? vs with
  | some d => exact (term_eq_node_iff _ _).2 (hn.trans hd)
  | none =>
    rw [term_array (hn.trans hd)]
    refine congrArg Term.list (List.map_congr_left fun v hv => ?_)
    rw [ofJson_scalar (h v hv)]
    rfl

end Reading

theorem Json.exists_constant {v : Json} (h : v.isScalar = true) :
    ∃ c, v.constant .unknown = .ok c := by
  cases v with
  | int n =>
    rw [constant]
    split
    · exact ⟨_, rfl⟩
    · exact ⟨_, rfl⟩
  | array _ | object _ => cases h
  | _ => exact ⟨_, rfl⟩

theorem Term.exists_buildItems_scalars {vs : List Json} (h : ∀ v ∈ vs, v.isScalar = true)
    (place : Place) (i : Nat) : ∃ cs : List Value, vs.map (Json.constant .unknown) = cs.map .ok ∧
      buildItems (vs.map .plain) place i = .ok (cs.map .value) := by
  induction vs generalizing i with
  | nil => exact ⟨[], rfl, rfl⟩
  | cons v r ih =>
    obtain ⟨hv, hr⟩ := List.forall_mem_cons.1 h
    obtain ⟨cs, hc, hb⟩ := ih hr (i + 1)
    obtain ⟨c, hv⟩ := Json.exists_constant hv
    refine ⟨c :: cs, by simp [hv, hc], ?_⟩
    rw [List.map_cons, buildItems, build, hv, hb]
    rfl

namespace Document

/-- a node with a gap for an operand -/
inductive Gap
  | arith (e : Document) (op : Operator)
  | concat (e : Document)
  | param (e : Document) (p : Phrase) (before after : List Term) (paramType t : Option DataType)
  | key (e : Document) (before : List Case) (result : Term) (after : List Case)
      (otherwise : Option Term) (t : DataType)
  | result (e : Document) (before : List Case) (key : Term) (after : List Case)
      (otherwise : Option Term) (t : DataType)
  | otherwise (e : Document) (cases : List Case) (t : DataType)

namespace Gap

def fill (v : Term) : Gap → Document
  | arith e op => .arith e op v
  | concat e => .concat e v
  | param e p before after paramType t => .phrase e p (before ++ v :: after) paramType t
  | key e before r after o t => .decode e (before ++ .mk v r :: after) o t
  | result e before k after o t => .decode e (before ++ .mk k v :: after) o t
  | otherwise e cases t => .decode e cases (some v) t

def others : Gap → List Term
  | arith e _ | concat e => [.node e]
  | param e _ before after _ _ => .node e :: (before ++ after)
  | key e before v after _ _ | result e before v after _ _ =>
    .node e :: v :: (before ++ after).flatMap Case.terms
  | otherwise e cases _ => .node e :: cases.flatMap Case.terms

def last? : Gap → Option Term
  | key _ _ _ _ o _ | result _ _ _ _ o _ => o
  | _ => none

/-- What stands beside the gap is read back as it is. -/
structure Kept (g : Gap) : Prop where
  others : ∀ v ∈ g.others, v.RoundTrips
  last : ∀ v ∈ g.last?, v.RoundTrips ∧ v ≠ .plain .null

theorem map_term_toJsonItems {before after : List Term} (h : ∀ x ∈ before ++ after, x.RoundTrips)
    (v : Json) :
    (Term.toJsonItems (before ++ .plain v :: after)).map (fun v => (ofJson v).term) =
      before ++ (ofJson v).term :: after := by
  obtain ⟨hb, ha⟩ := List.forall_mem_append.1 h
  have hb := Term.map_term_toJsonItems hb
  have ha := Term.map_term_toJsonItems ha
  rw [Term.toJsonItems_eq] at hb ha ⊢
  rw [List.map_append, List.map_append, hb, List.map_cons, List.map_cons, ha]
  rfl

theorem map_case_toJsonItems {before after : List Case}
    (h : ∀ x ∈ (before ++ after).flatMap Case.terms, x.RoundTrips) {c c' : Case}
    (hc : (ofJson c.toJson).case = some c') :
    (Case.toJsonItems (before ++ c :: after)).map (fun v => (ofJson v).case) =
      (before ++ c' :: after).map some := by
  rw [List.flatMap_append, List.forall_mem_append] at h
  have hb := Case.map_case_toJsonItems h.1
  have ha := Case.map_case_toJsonItems h.2
  rw [Case.toJsonItems_eq] at hb ha ⊢
  rw [List.map_append, List.map_append, hb, List.map_cons, List.map_cons, ha, hc,
    List.map_append, List.map_cons]

theorem node_fill {g : Gap} (h : g.Kept) {v : Json} (hn : v ≠ .null) :
    (ofJson (g.fill (.plain v)).toJson).node = some (g.fill (ofJson v).term) := by
  obtain ⟨ho, hl⟩ := h
  cases g with
  | arith e op =>
    rw [others, List.forall_mem_singleton] at ho
    exact node_arith (Term.roundTrips_node.1 ho) op rfl
  | concat e =>
    rw [others, List.forall_mem_singleton] at ho
    exact node_concat (Term.roundTrips_node.1 ho) rfl
  | param e p before after paramType t =>
    rw [others, List.forall_mem_cons] at ho
    have h := node_phrase (Term.roundTrips_node.1 ho.1) p
      (Term.toJsonItems (before ++ .plain v :: after)) paramType t
    rwa [map_term_toJsonItems ho.2] at h
  | key e before r after o t =>
    rw [others, List.forall_mem_cons, List.forall_mem_cons] at ho
    obtain ⟨he, hr, ho⟩ := ho
    refine decode_toJson (Term.roundTrips_node.1 he) (map_case_toJsonItems ho ?_) hl t
    rw [Case.toJson, case_object, hr]
    rfl
  | result e before k after o t =>
    rw [others, List.forall_mem_cons, List.forall_mem_cons] at ho
    obtain ⟨he, hk, ho⟩ := ho
    refine decode_toJson (Term.roundTrips_node.1 he) (map_case_toJsonItems ho ?_) hl t
    rw [Case.toJson, case_object, hk]
    rfl
  | otherwise e cases t =>
    rw [others, List.forall_mem_cons] at ho
    exact node_decodeElse (Term.roundTrips_node.1 ho.1) (Case.map_case_toJsonItems ho.2)
      (isNull_eq_false_iff.2 hn) rfl t

end Gap

end Document

/-- An array of scalars in the gap is read as the node that it can be, and if it can be none as the
list of the scalars, which makes the list of their constants. -/
theorem Document.Gap.ofJson?_scalars {g : Gap} (hg : g.Kept) {vs : List Json}
    (h : ∀ v ∈ vs, v.isScalar = true) :
    ofJson? (g.fill (.plain (.array vs))).toJson = some (g.fill (Term.ofScalars vs)) ∧
      ∀ place, ∃ cs : List Value, vs.map (Json.constant .unknown) = cs.map .ok ∧
        (Term.list (vs.map .plain)).build place = .ok (.list (cs.map .value)) := by
  constructor
  · rw [ofJson?_toJson_eq_node, node_fill hg Json.noConfusion, term_scalars h]
  · intro place
    obtain ⟨cs, hc, hb⟩ := Term.exists_buildItems_scalars h place 0
    refine ⟨cs, hc, ?_⟩
    rw [Term.build, hb]
    rfl

/-- Two texts after a column, which are no node. -/
theorem Document.Gap.ofJson?_scalars_texts :
    let g := Gap.concat (column "A" none .varchar)
    let vs : List Json := [.string "x", .string "y"]
    g.Kept ∧ (∀ v ∈ vs, v.isScalar = true) ∧ Term.ofScalars vs = .list (vs.map .plain) ∧
      ofJson? (g.fill (.plain (.array vs))).toJson = some (g.fill (Term.ofScalars vs)) := by
  have hg : (Gap.concat (column "A" none .varchar)).Kept :=
    ⟨List.forall_mem_singleton.2 rfl, fun _ hv => by cases hv⟩
  exact ⟨hg, by decide, rfl, (ofJson?_scalars hg (by decide)).1⟩

/-- A list of two texts that is read as a column. -/
theorem Document.ofJson?_array_column :
    let vs : List Json := [.string "column", .string "x"]
    let d := ofJson? (.object [("kind", .string "concat"),
      ("expr", .object [("kind", .string "column"), ("name", .string "A"),
        ("data_type", .string "varchar")]), ("value", .array vs)])
    d = some (.concat (column "A" none .varchar) (.node (column "x" none .unknown))) ∧
      d ≠ some (.concat (column "A" none .varchar) (.list (vs.map .plain))) := by
  refine ⟨rfl, fun h => ?_⟩
  cases h

end ColumnSql
