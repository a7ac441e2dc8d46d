import ColumnSql.Document.Decoding

/-! What a JSON value is read as, by its form: a scalar, an array or an object. The node of a kind
is made of its fields alone, so each of its parts is something that a field can be. -/

namespace ColumnSql

namespace Json

def isScalar : Json → Bool
  | array _ | object _ => false
  | _ => true

/-- The steps of an induction that shows `P` of all values. -/
structure Induction (P : Json → Prop) : Prop where
  scalar : ∀ v : Json, v.isScalar = true → P v
  array : ∀ items, (∀ v ∈ items, P v) → P (array items)
  object : ∀ members : List (String × Json), (∀ m ∈ members, P m.2) → P (object members)

namespace Induction

variable {P : Json → Prop}

mutual

theorem ofValue (h : Induction P) : ∀ v : Json, P v
  | .null => h.scalar _ rfl
  | .bool _ => h.scalar _ rfl
  | .int _ => h.scalar _ rfl
  | .float _ => h.scalar _ rfl
  | .string _ => h.scalar _ rfl
  | .array items => h.array items (h.ofItems items)
  | .object members => h.object members (h.ofMembers members)

theorem ofItems (h : Induction P) : ∀ (items : List Json), ∀ v ∈ items, P v
  | [], _, hv => absurd hv List.not_mem_nil
  | v :: r, _, hv => (List.mem_cons.1 hv).elim (fun q => q ▸ h.ofValue v) (h.ofItems r _)

theorem ofMembers (h : Induction P) : ∀ (members : List (String × Json)), ∀ m ∈ members, P m.2
  | [], _, hm => absurd hm List.not_mem_nil
  | (_, v) :: r, _, hm => (List.mem_cons.1 hm).elim (fun q => q ▸ h.ofValue v) (h.ofMembers r _)

end

end Induction

end Json

namespace Reading

theorem ofJson_scalar {v : Json} (h : v.isScalar = true) : ofJson v = ofScalar v := by
  cases v <;> first | rfl | cases h

theorem ofJson_array (items : List Json) :
    ofJson (.array items) = ofArray (items.map ofJson) := by
  rw [ofJson]
  congr 1
  induction items with
  | nil => rfl
  | cons v r ih => rw [ofJsonItems, ih, List.map_cons]

theorem ofJson_object (members : List (String × Json)) :
    ofJson (.object members) = ofObject (members.map fun m => (m.1, ofJson m.2)) := by
  rw [ofJson]
  congr 1
  induction members with
  | nil => rfl
  | cons m r ih => rw [ofJsonMembers, ih, List.map_cons]

theorem node_array (items : List Json) :
    (ofJson (.array items)).node = ofItems? (items.map ofJson) := by
  rw [ofJson_array]
  rfl

theorem node_object (members : List (String × Json)) :
    (ofJson (.object members)).node = ofFields? (members.map fun m => (m.1, ofJson m.2)) := by
  rw [ofJson_object]
  rfl

theorem term_eq_node_iff (v : Json) (e : Document) :
    (ofJson v).term = .node e ↔ (ofJson v).node = some e := by
  cases v with
  | array items =>
    rw [ofJson_array, ofArray]
    dsimp only
    cases ofItems? (items.map ofJson) <;> simp
  | object members =>
    rw [ofJson_object, ofObject]
    dsimp only
    cases ofFields? (members.map fun m => (m.1, ofJson m.2)) <;> simp
  | _ => simp [ofJson, ofScalar]

theorem term_array {items : List Json} (h : (ofJson (.array items)).node = none) :
    (ofJson (.array items)).term = .list (items.map fun v => (ofJson v).term) := by
  rw [node_array] at h
  simp [ofJson_array, ofArray, h]

theorem eq_of_term_eq_plain {v u : Json} (hu : u.isScalar = true)
    (h : (ofJson v).term = .plain u) : v = u := by
  cases v with
  | array items =>
    rw [ofJson_array, ofArray] at h
    dsimp only at h
    split at h <;> cases h
  | object members =>
    rw [ofJson_object, ofObject] at h
    dsimp only at h
    split at h <;> cases h
    cases hu
  | _ => exact Term.plain.inj h

end Reading

namespace Fields

variable {α : Type} {fs : Fields} {name : String} {read : Reading → Option α} {x : α}

theorem mem_of_find {r : Reading} (h : fs.find? name = some (some r)) : (name, r) ∈ fs := by
  unfold find? at h
  split at h
  · simp at h
  next f hf =>
    have hm : f ∈ fs.filter fun f => f.1 == name := hf ▸ List.mem_singleton_self f
    obtain ⟨hm, hn⟩ := List.mem_filter.1 hm
    cases h
    rwa [← eq_of_beq hn]
  · cases h

theorem exists_of_need (h : fs.need? name read = some x) :
    ∃ r, (name, r) ∈ fs ∧ read r = some x := by
  obtain ⟨o, ho, h⟩ := Option.bind_eq_some_iff.1 h
  obtain ⟨r, rfl, h⟩ := Option.bind_eq_some_iff.1 h
  exact ⟨r, mem_of_find ho, h⟩

theorem exists_of_get {default : α} (h : fs.get? name default read = some x) :
    x = default ∨ ∃ r, (name, r) ∈ fs ∧ read r = some x := by
  obtain ⟨o, ho, h⟩ := Option.bind_eq_some_iff.1 h
  cases o with
  | none => exact .inl (Option.some.inj h).symm
  | some r => exact .inr ⟨r, mem_of_find ho, h⟩

theorem exists_of_may (h : fs.may? name read = some (some x)) :
    ∃ r, (name, r) ∈ fs ∧ r.isNull = false ∧ read r = some x := by
  obtain h | ⟨r, hm, h⟩ := exists_of_get h
  · cases h
  · cases hn : r.isNull with
    | true => simp [hn] at h
    | false => exact ⟨r, hm, hn, by simpa [hn] using h⟩

end Fields

def Case.terms : Case → List Term
  | .mk key result => [key, result]

def Document.parts : Document → List Term
  | .column .. | .value .. | .now _ | .countAll => []
  | .arith e _ v | .concat e v => [.node e, v]
  | .concatAll e others _ => .node e :: others.map .node
  | .function e .. | .convert e .. | .parenthesis e | .named e _ => [.node e]
  | .phrase e _ params _ _ => .node e :: params
  | .call _ e _ other _ => .node e :: other.toList.map .node
  | .decode e cases otherwise _ => .node e :: (cases.flatMap Case.terms ++ otherwise.toList)

namespace Reading

/-- the nodes and operands that a value can be, or the parts of the case that it can be -/
def own (r : Reading) : List Term :=
  r.term :: (r.node.toList.map .node ++ r.case.toList.flatMap Case.terms)

/-- as `own`, and the same of the items of an array -/
def offered (r : Reading) : List Term := r.own ++ (r.items.getD []).flatMap own

variable {r : Reading} {v : Term}

theorem mem_offered_of_own (h : v ∈ r.own) : v ∈ r.offered := List.mem_append_left _ h

theorem node_mem_own {e : Document} (h : r.node = some e) : .node e ∈ r.own := by
  simp [own, h]

theorem term_mem_own : r.term ∈ r.own := List.mem_cons_self ..

theorem case_mem_own {c : Case} (h : r.case = some c) (hv : v ∈ c.terms) : v ∈ r.own := by
  simp [own, h, hv]

theorem mem_offered_of_item {items : List Reading} (h : r.items = some items) {x : Reading}
    (hx : x ∈ items) (hv : v ∈ x.own) : v ∈ r.offered := by
  simp only [offered, h, Option.getD_some, List.mem_append, List.mem_flatMap]
  exact .inr ⟨x, hx, hv⟩

theorem forall_offered {P : Term → Prop} (term : P r.term)
    (node : ∀ d, r.node = some d → P (.node d))
    (case : ∀ c, r.case = some c → ∀ t ∈ c.terms, P t)
    (items : ∀ xs, r.items = some xs → ∀ x ∈ xs, ∀ t ∈ x.own, P t) : ∀ t ∈ r.offered, P t := by
  intro t ht
  simp only [offered, own, List.mem_append, List.mem_cons, List.mem_map, List.mem_flatMap,
    Option.mem_toList] at ht
  rcases ht with (rfl | ⟨d, hd, rfl⟩ | ⟨c, hc, ht⟩) | ⟨x, hx, ht⟩
  · exact term
  · exact node d hd
  · exact case c hc t ht
  · cases hi : r.items with
    | none => simp [hi] at hx
    | some xs =>
      rw [hi] at hx
      exact items xs hi x hx t (by simpa [own] using ht)

theorem mapM_eq_some_iff {α : Type} {read : Reading → Option α} {items : List Reading}
    {xs : List α} : items.mapM read = some xs ↔ items.map read = xs.map some := by
  induction items generalizing xs with
  | nil => cases xs <;> simp
  | cons r items ih =>
    cases xs with
    | nil => simp [List.mapM_cons, Option.bind_eq_some_iff]
    | cons x xs => simp [List.mapM_cons, Option.bind_eq_some_iff, ih]

theorem exists_of_mapM {α : Type} {read : Reading → Option α} {items : List Reading} {xs : List α}
    (h : items.mapM read = some xs) {x : α} (hx : x ∈ xs) : ∃ r ∈ items, read r = some x := by
  have hm : some x ∈ items.map read := mapM_eq_some_iff.1 h ▸ List.mem_map_of_mem hx
  exact List.mem_map.1 hm

theorem node_mem_of_nodes {es : List Document} (h : r.nodes? = some es) {e : Document}
    (he : e ∈ es) : .node e ∈ r.offered := by
  obtain ⟨items, hi, h⟩ := Option.bind_eq_some_iff.1 h
  obtain ⟨x, hx, h⟩ := exists_of_mapM h he
  exact mem_offered_of_item hi hx (node_mem_own h)

theorem mem_of_terms {vs : List Term} (h : r.terms? = some vs) (hv : v ∈ vs) : v ∈ r.offered := by
  obtain ⟨items, hi, rfl⟩ := Option.map_eq_some_iff.1 h
  obtain ⟨x, hx, rfl⟩ := List.mem_map.1 hv
  exact mem_offered_of_item hi hx term_mem_own

theorem mem_of_cases {cs : List Case} (h : r.cases? = some cs) {c : Case} (hc : c ∈ cs)
    (hv : v ∈ c.terms) : v ∈ r.offered := by
  obtain ⟨items, hi, h⟩ := Option.bind_eq_some_iff.1 h
  obtain ⟨x, hx, h⟩ := exists_of_mapM h hc
  exact mem_offered_of_item hi hx (case_mem_own h hv)

end Reading

namespace Fields

/-- One of the fields can be, or be made of, `v`. -/
def Offers (fs : Fields) (v : Term) : Prop := ∃ f ∈ fs, v ∈ f.2.offered

variable {fs : Fields} {name : String} {e : Document} {v : Term}

open Reading

theorem Offers.of_mem {r : Reading} (hr : (name, r) ∈ fs) (h : v ∈ r.offered) : fs.Offers v :=
  ⟨_, hr, h⟩

theorem offers_node (h : fs.need? name Reading.node = some e) : fs.Offers (.node e) := by
  obtain ⟨r, hr, h⟩ := exists_of_need h
  exact .of_mem hr (mem_offered_of_own (node_mem_own h))

theorem offers_term (h : fs.need? name term? = some v) : fs.Offers v := by
  obtain ⟨r, hr, ⟨⟩⟩ := exists_of_need h
  exact .of_mem hr (mem_offered_of_own term_mem_own)

theorem offers_nodes {es : List Document} (h : fs.need? name nodes? = some es) :
    ∀ e ∈ es, fs.Offers (.node e) := by
  obtain ⟨r, hr, h⟩ := exists_of_need h
  exact fun e he => .of_mem hr (node_mem_of_nodes h he)

theorem offers_terms {vs : List Term} (h : fs.get? name [] terms? = some vs) :
    ∀ v ∈ vs, fs.Offers v := by
  obtain rfl | ⟨r, hr, h⟩ := exists_of_get h
  · simp
  · exact fun v hv => .of_mem hr (mem_of_terms h hv)

theorem offers_cases {cs : List Case} (h : fs.get? name [] cases? = some cs) :
    ∀ v ∈ cs.flatMap Case.terms, fs.Offers v := by
  obtain rfl | ⟨r, hr, h⟩ := exists_of_get h
  · simp
  · intro v hv
    obtain ⟨c, hc, hv⟩ := List.mem_flatMap.1 hv
    exact .of_mem hr (mem_of_cases h hc hv)

theorem offers_optional_node {o : Option Document} (h : fs.may? name Reading.node = some o) :
    ∀ e ∈ o, fs.Offers (.node e) := by
  rintro e rfl
  obtain ⟨r, hr, _, h⟩ := exists_of_may h
  exact .of_mem hr (mem_offered_of_own (node_mem_own h))

theorem offers_optional_term {o : Option Term} (h : fs.may? name term? = some o) :
    ∀ v ∈ o, fs.Offers v := by
  rintro v rfl
  obtain ⟨r, hr, _, ⟨⟩⟩ := exists_of_may h
  exact .of_mem hr (mem_offered_of_own term_mem_own)

end Fields

open Fields in
theorem Document.Kind.offers_of_mem_parts {k : Kind} {fs : Fields} {d : Document}
    (h : k.document? fs = some d) : ∀ v ∈ d.parts, fs.Offers v := by
  unfold document? at h
  cases k <;> simp only [Option.bind_eq_bind, Option.pure_def, Option.bind_eq_some_iff] at h
  case column =>
    obtain ⟨_, _, _, _, _, _, ⟨⟩⟩ := h
    exact List.forall_mem_nil _
  case value =>
    obtain ⟨_, _, _, _, ⟨⟩⟩ := h
    exact List.forall_mem_nil _
  case now =>
    obtain ⟨_, _, ⟨⟩⟩ := h
    exact List.forall_mem_nil _
  case arith =>
    obtain ⟨_, he, _, _, _, hv, ⟨⟩⟩ := h
    simp [parts, offers_node he, offers_term hv]
  case concat =>
    obtain ⟨_, he, _, hv, ⟨⟩⟩ := h
    simp [parts, offers_node he, offers_term hv]
  case concatAll =>
    obtain ⟨_, he, _, ho, _, _, ⟨⟩⟩ := h
    simpa [parts, offers_node he] using offers_nodes ho
  case countAll =>
    cases h
    exact List.forall_mem_nil _
  case function =>
    obtain ⟨_, he, _, _, _, _, _, _, ⟨⟩⟩ := h
    simp [parts, offers_node he]
  case phrase =>
    obtain ⟨_, he, _, _, _, hp, _, _, _, _, ⟨⟩⟩ := h
    simpa [parts, offers_node he] using offers_terms hp
  case call =>
    obtain ⟨_, _, _, he, _, _, _, ho, _, _, ⟨⟩⟩ := h
    simpa [parts, offers_node he] using offers_optional_node ho
  case decode =>
    obtain ⟨_, he, _, hc, _, ho, _, _, ⟨⟩⟩ := h
    have hc := offers_cases hc
    have ho := offers_optional_term ho
    simp only [parts, List.forall_mem_cons, List.forall_mem_append, Option.mem_toList]
    exact ⟨offers_node he, hc, ho⟩
  case convert =>
    obtain ⟨_, he, _, _, _, _, ⟨⟩⟩ := h
    simp [parts, offers_node he]
  case parenthesis =>
    obtain ⟨_, he, ⟨⟩⟩ := h
    simp [parts, offers_node he]
  case named =>
    obtain ⟨_, he, _, _, ⟨⟩⟩ := h
    simp [parts, offers_node he]

namespace Reading

/-- The fields of a node in the form of an array are items of the array. -/
theorem exists_of_ofItems {rs : List Reading} {d : Document} (h : ofItems? rs = some d) :
    ∃ (k : Document.Kind) (fs : Fields), (∀ f ∈ fs, f.2 ∈ rs) ∧ k.document? fs = some d := by
  cases rs with
  | nil => cases h
  | cons tag rest =>
    rw [ofItems?] at h
    obtain ⟨k, _, h⟩ := Option.bind_eq_some_iff.1 h
    split at h
    · cases h
    · exact ⟨k, _, fun f hf => List.mem_cons_of_mem _ (List.of_mem_zip hf).2, h⟩

theorem exists_of_ofFields {fs : Fields} {d : Document} (h : ofFields? fs = some d) :
    ∃ k : Document.Kind, k.document? fs = some d := by
  obtain ⟨k, _, h⟩ := Option.bind_eq_some_iff.1 h
  exact ⟨k, h⟩

theorem exists_of_caseOfItems {rs : List Reading} {c : Case} (h : caseOfItems? rs = some c) :
    ∀ t ∈ c.terms, ∃ x ∈ rs, t ∈ x.own := by
  unfold caseOfItems? at h
  split at h
  · cases h
    simp [Case.terms, term_mem_own]
  · cases h

theorem exists_of_caseOfFields {fs : Fields} {c : Case} (h : caseOfFields? fs = some c) :
    ∀ t ∈ c.terms, fs.Offers t := by
  simp only [caseOfFields?, Option.bind_eq_bind, Option.pure_def, Option.bind_eq_some_iff] at h
  obtain ⟨_, hk, _, hr, ⟨⟩⟩ := h
  simp [Case.terms, Fields.offers_term hk, Fields.offers_term hr]

end Reading

end ColumnSql
