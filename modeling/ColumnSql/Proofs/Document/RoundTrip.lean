import ColumnSql.Proofs.Document.Building
import ColumnSql.Proofs.Document.Narrowing

/-! Documents that make expressions are read back from what they are written as. -/

namespace ColumnSql

open Reading

/-- A node that is made of what JSON values are read as, and that makes an expression, is one that
can be written. -/
theorem Document.Builds.proper {k : Document.Kind} {fs : Fields} {d : Document} (hb : d.Builds)
    (hf : ∀ f ∈ fs, ∃ v, f.2 = ofJson v) (h : k.document? fs = some d) : d.Proper := by
  cases d with
  | value v t =>
    obtain ⟨place, e, hb⟩ := hb
    rw [build] at hb
    obtain ⟨c, hc, _⟩ := exists_of_bind_eq_ok hb
    exact Json.isScalar_of_constant hc
  | decode e cases otherwise t =>
    cases otherwise with
    | none => trivial
    | some v =>
      have hk : k = .decode := by
        unfold Kind.document? at h
        cases k <;> simp [Option.bind_eq_some_iff] at h ⊢
      subst hk
      simp only [Kind.document?, Option.bind_eq_bind, Option.pure_def,
        Option.bind_eq_some_iff] at h
      obtain ⟨_, _, _, _, _, ho, _, _, ⟨⟩⟩ := h
      obtain ⟨r, hr, hn, ⟨⟩⟩ := Fields.exists_of_may ho
      obtain ⟨w, rfl⟩ := hf _ hr
      exact fun hv => isNull_eq_false_iff.1 hn (eq_of_term_eq_plain rfl hv)
  | _ => trivial

/-- Whatever `v` can be is read back from what it is written as, if it makes an expression, and what
it is written as can be no more than `v`. -/
structure Json.Stable (v : Json) : Prop where
  offered : ∀ t ∈ (ofJson v).offered, t.Builds → t.RoundTrips
  narrows : (ofJson v).term.Builds → Narrows (ofJson (ofJson v).term.toJson) (ofJson v)

namespace Json.Stable

theorem node {k : Document.Kind} {fs : Fields} {d : Document}
    (hf : ∀ f ∈ fs, ∃ v : Json, v.Stable ∧ f.2 = ofJson v) (h : k.document? fs = some d)
    (hb : d.Builds) : (Term.node d).RoundTrips := by
  refine Term.roundTrips_node.2 (Document.node_toJson ?_ fun v hv => ?_)
  · exact hb.proper (fun f hm => (hf f hm).imp fun _ => And.right) h
  · obtain ⟨f, hm, ho⟩ := Document.Kind.offers_of_mem_parts h v hv
    obtain ⟨w, hw, he⟩ := hf f hm
    exact hw.offered v (he ▸ ho) (hb.of_mem_parts v hv)

theorem ofScalar {v : Json} (hv : v.isScalar = true) : v.Stable where
  offered := by
    have ho : (ofJson v).offered = [.plain v] := by
      rw [ofJson_scalar hv]
      rfl
    rw [ho, List.forall_mem_singleton]
    exact fun _ => Term.roundTrips_plain hv
  narrows := by
    intro _
    rw [ofJson_scalar hv]
    exact .inl (ofJson_scalar hv)

/-- What a node is written as can be that node and nothing else. -/
theorem weaker_node {r : Reading} (h : r.node.isSome = true) (d : Document) :
    Weaker (ofJson d.toJson) r := by
  obtain ⟨k, fields, he, hw⟩ := d.toJson_eq_object
  rw [he, Document.Kind.object, ofJson_object, ofObject]
  constructor
  case json => rfl
  case word => cases fields <;> rfl
  case node => exact fun _ => h
  case case =>
    have hf : (fields.map fun m => (m.1, ofJson m.2)).filter (fun f => f.1 == "when") = [] := by
      simpa [List.filter_map, List.filter_eq_nil_iff] using hw
    simp [caseOfFields?, Fields.need?, Fields.find?, hf]
  all_goals intro h; cases h

theorem narrows_items {items : List Json} (h : ∀ v ∈ items, v.Stable)
    (hb : ∀ v ∈ items, (ofJson v).term.Builds) :
    List.Forall₂ Narrows ((Term.toJsonItems (items.map fun v => (ofJson v).term)).map ofJson)
      (items.map ofJson) := by
  rw [Term.toJsonItems_eq]
  simp only [List.forall₂_map_left_iff, List.forall₂_map_right_iff, List.forall₂_same]
  exact fun v hv => (h v hv).narrows (hb v hv)

theorem roundTrips_items {items : List Json} (h : ∀ v ∈ items, v.Stable)
    (hn : (ofJson (.array items)).node = none)
    (hb : ∀ v ∈ items, (ofJson v).term.Builds) :
    (Term.list (items.map fun v => (ofJson v).term)).RoundTrips := by
  refine Term.roundTrips_list (List.forall_mem_map.2 fun v hv => ?_) ?_
  · exact (h v hv).offered _ (mem_offered_of_own term_mem_own) (hb v hv)
  · rw [node_array] at hn
    rw [Term.toJson, node_array, ← Option.not_isSome_iff_eq_none]
    intro hs
    have hs := isSome_ofItems?_mono (narrows_items h hb) hs
    simp [hn] at hs

theorem ofItems {items : List Json} (h : ∀ v ∈ items, v.Stable) : (Json.array items).Stable := by
  have hown : ∀ x ∈ items.map ofJson, ∀ t ∈ x.own, t.Builds → t.RoundTrips := by
    rintro _ hx t ht
    obtain ⟨v, hv, rfl⟩ := List.mem_map.1 hx
    exact (h v hv).offered t (mem_offered_of_own ht)
  have hnode (d : Document) (hd : (ofJson (.array items)).node = some d) (hb : d.Builds) :
      (Term.node d).RoundTrips := by
    rw [node_array] at hd
    obtain ⟨k, fs, hf, hk⟩ := exists_of_ofItems hd
    refine Stable.node (fun f hm => ?_) hk hb
    obtain ⟨v, hv, he⟩ := List.mem_map.1 (hf f hm)
    exact ⟨v, h v hv, he.symm⟩
  have hterm : (ofJson (.array items)).term.Builds → (ofJson (.array items)).term.RoundTrips := by
    cases hn : (ofJson (.array items)).node with
    | some d =>
      rw [(term_eq_node_iff _ _).2 hn]
      exact fun hb => hnode d hn hb.of_node
    | none =>
      rw [term_array hn]
      exact fun hb => roundTrips_items h hn (List.forall_mem_map.1 hb.of_list)
  constructor
  · refine forall_offered hterm (fun d hd hb => hnode d hd hb.of_node) ?_ ?_
    · intro c hc t ht
      rw [ofJson_array] at hc
      obtain ⟨x, hx, ht⟩ := exists_of_caseOfItems hc t ht
      exact hown x hx t ht
    · intro xs hi
      rw [items_array] at hi
      cases hi
      exact hown
  · intro hb
    cases hn : (ofJson (.array items)).node with
    | some d =>
      rw [(term_eq_node_iff _ _).2 hn]
      exact .inr (weaker_node (by rw [hn]; rfl) d)
    | none =>
      rw [term_array hn] at hb ⊢
      rw [Term.toJson, ofJson_array, ofJson_array]
      exact .inr (weaker_ofArray (narrows_items h (List.forall_mem_map.1 hb.of_list)))

theorem ofMembers {members : List (String × Json)} (h : ∀ m ∈ members, m.2.Stable) :
    (Json.object members).Stable := by
  have hf : ∀ f ∈ members.map fun m => (m.1, ofJson m.2),
      ∃ v : Json, v.Stable ∧ f.2 = ofJson v :=
    List.forall_mem_map.2 fun m hm => ⟨m.2, h m hm, rfl⟩
  have hnode (d : Document) (hd : (ofJson (.object members)).node = some d) (hb : d.Builds) :
      (Term.node d).RoundTrips := by
    rw [node_object] at hd
    obtain ⟨k, hk⟩ := exists_of_ofFields hd
    exact Stable.node hf hk hb
  have hterm (hb : (ofJson (.object members)).term.Builds) :
      ∃ d, (ofJson (.object members)).node = some d := by
    rw [ofJson_object, ofObject] at hb ⊢
    dsimp only at hb ⊢
    split at hb
    next d hd => exact ⟨d, hd⟩
    next hd => cases hb.of_plain
  constructor
  · refine forall_offered ?_ (fun d hd hb => hnode d hd hb.of_node) ?_ ?_
    · intro hb
      obtain ⟨d, hd⟩ := hterm hb
      rw [(term_eq_node_iff _ _).2 hd] at hb ⊢
      exact hnode d hd hb.of_node
    · intro c hc t ht
      rw [ofJson_object] at hc
      obtain ⟨f, hm, ht⟩ := exists_of_caseOfFields hc t ht
      obtain ⟨v, hv, he⟩ := hf f hm
      exact hv.offered t (he ▸ ht)
    · intro xs hi
      rw [ofJson_object] at hi
      cases hi
  · intro hb
    obtain ⟨d, hd⟩ := hterm hb
    rw [(term_eq_node_iff _ _).2 hd]
    exact .inr (weaker_node (by rw [hd]; rfl) d)

end Json.Stable

theorem Json.stable : ∀ v : Json, v.Stable :=
  Json.Induction.ofValue ⟨fun _ => .ofScalar, fun _ => .ofItems, fun _ => .ofMembers⟩

/-- A document that is read from a JSON value and makes an expression is read back as it is from
what it is written as, and so makes the same expression. -/
theorem Document.ofJson?_toJson {v : Json} {d : Document} {place : Place} {e : Expr}
    (hd : ofJson? v = some d) (hb : d.build place = .ok e) :
    ∃ d', ofJson? d.toJson = some d' ∧ d' = d ∧ d'.build place = .ok e := by
  have hn : (ofJson v).node = some d := by
    rw [ofJson?] at hd
    split at hd
    · exact hd
    · cases hd
  have hr : (Term.node d).RoundTrips :=
    (Json.stable v).offered _ (mem_offered_of_own (node_mem_own hn)) (Builds.node ⟨place, e, hb⟩)
  exact ⟨d, by rw [ofJson?_toJson_eq_node, Term.roundTrips_node.1 hr], rfl, hb⟩

/-- An array with an array and a number in place of objects and a name, and `text` for varchar. -/
theorem Document.ofJson?_toJson_array :
    let d := concat (column "A" none .varchar) (.list [.plain (.string "x"), .plain .null])
    ofJson? (.array [.string "concat", .array [.int 0, .string "A", .null, .string "text"],
      .array [.string "x", .null]]) = some d ∧ ∃ e, d.build [] = .ok e ∧
      ∃ d', ofJson? d.toJson = some d' ∧ d' = d ∧ d'.build [] = .ok e := by
  refine ⟨rfl, _, rfl, ?_⟩
  exact ofJson?_toJson (v := .array [.string "concat", .array [.int 0, .string "A", .null,
    .string "text"], .array [.string "x", .null]]) rfl rfl

end ColumnSql
