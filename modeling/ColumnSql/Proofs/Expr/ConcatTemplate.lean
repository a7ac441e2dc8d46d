import ColumnSql.Proofs.Dialect.Fallback
import ColumnSql.Proofs.Expr.Concatenation

/-! Templates of tables for concatenations. A concatenation looks for its places by itself, and what
it makes of a template is the template filled in as for a function only if that has the plainest
form: one place after the `?`, without a type. -/

namespace ColumnSql

namespace Template

variable {template : String} {arg : Placeholder → String} {right : String → String}

/-- The template has one placeholder, which is `{0}` and after the first `?`. -/
def HasPlainPlace (template : String) : Prop :=
  ∃ before middle after, template.toList =
      before ++ '?' :: (middle ++ '\x7b' :: '0' :: '\x7d' :: after) ∧
    '?' ∉ before ∧ ¬ HasPlaceholder before ∧ ¬ HasPlaceholder middle ∧ ¬ HasPlaceholder after

/-- The text shows in a template by its first character. -/
def Shows (s : String) : Prop := ∃ c r, s.toList = c :: r ∧ c ≠ '\x7b'

/-- The first `{0}` is the first placeholder, if that is `{0}`. -/
theorem splitFirst_place {s : List Char} (h : ¬ HasPlaceholder s) (r : List Char) :
    Text.splitFirst ['\x7b', '0', '\x7d'] (s ++ '\x7b' :: '0' :: '\x7d' :: r) = some (s, r) := by
  induction s with
  | nil => simp [Text.splitFirst]
  | cons c s ih =>
    obtain ⟨hc, hs⟩ := pieces_cons_of_not_hasPlaceholder h
    have hp : ¬ ['\x7b', '0', '\x7d'] <+: c :: (s ++ '\x7b' :: '0' :: '\x7d' :: r) := by
      -- a place at the start would be the first piece
      rintro ⟨x, hx⟩
      have hp := pieces_append_edge isEdge_brace ('0' :: '\x7d' :: r) (c :: s)
      rw [List.cons_append, ← hx, hc] at hp
      cases (pieces_place x).symm.trans hp
    rw [List.cons_append, Text.splitFirst, if_neg (by rwa [List.isPrefixOf_iff_prefix]), ih hs]
    rfl

theorem HasPlainPlace.concatenated_eq (h : HasPlainPlace template)
    (hr : right ", " = arg ⟨some 0, none⟩) (left : String) :
    concatenated template left right = filled template arg left := by
  obtain ⟨before, middle, after, ht, hq, hb, hm, ha⟩ := h
  rw [concatenated_places left right (ht ▸ Text.splitFirst_append_cons hq _)
    (splitFirst_place hm after), filled_place ht hq hb hm ha, hr]

/-- With texts that show, any other template comes out as another text. -/
theorem hasPlainPlace_of_concatenated (ha : ∀ p, Shows (arg p)) (hm : '?' ∈ template.toList)
    (hr : right ", " = arg ⟨some 0, none⟩) {left : String}
    (h : concatenated template left right = filled template arg left) :
    HasPlainPlace template := by
  obtain ⟨before, rest, ht, hq⟩ := List.eq_append_cons_of_mem hm
  have hs : Text.splitFirst ['?'] template.toList = some (before, rest) :=
    ht ▸ Text.splitFirst_append_cons hq rest
  rw [filled_eq ht hq] at h
  have h := congrArg String.toList h
  cases hp : Text.splitFirst ['\x7b', '0', '\x7d'] rest with
  | none =>
    simp only [concatenated, hs, hp, String.toList_append, String.toList_ofList,
      List.append_assoc] at h
    obtain ⟨hb, h⟩ := (append_eq_substitute_append_iff ha).1 h
    have h := (append_eq_substitute_append_iff (y := []) ha).1
      ((List.append_cancel_left h).trans (List.append_nil _).symm)
    obtain ⟨c, r, hc, -⟩ := ha ⟨some 0, none⟩
    rw [hr, hc] at h
    cases h.2
  | some x =>
    obtain ⟨middle, after⟩ := x
    have he := Text.eq_append_of_splitFirst hp
    rw [he, List.append_assoc, List.cons_append, List.cons_append, List.cons_append,
      List.nil_append] at ht h
    rw [substitute_append_place] at h
    simp only [concatenated, hs, hp, String.toList_append, String.toList_ofList,
      List.append_assoc, hr] at h
    obtain ⟨hb, h⟩ := (append_eq_substitute_append_iff ha).1 h
    obtain ⟨hm, h⟩ := (append_eq_substitute_append_iff ha).1 (List.append_cancel_left h)
    have h := not_hasPlaceholder_of_append ha (x := []) (y := [])
      (by simpa using List.append_cancel_left h)
    exact ⟨before, middle, after, ht, hq, hb, hm, h⟩

theorem concatenated_of_not_hasPlaceholder (h : ¬ HasPlaceholder template.toList)
    (hm : '?' ∈ template.toList) (left : String) :
    concatenated template left right = filled template arg left ++ right ", " := by
  obtain ⟨before, rest, ht, hq⟩ := List.eq_append_cons_of_mem hm
  have hs : Text.splitFirst ['?'] template.toList = some (before, rest) :=
    ht ▸ Text.splitFirst_append_cons hq rest
  rw [ht, hasPlaceholder_append_cons isBreak_mark, not_or] at h
  have hp : Text.splitFirst ['\x7b', '0', '\x7d'] rest = none := by
    rw [Option.eq_none_iff_forall_ne_some]
    rintro ⟨middle, after⟩ hp
    have he := Text.eq_append_of_splitFirst hp
    rw [List.append_assoc] at he
    exact h.2 (he ▸ hasPlaceholder_append_place middle after)
  simp only [concatenated, hs, hp]
  rw [filled_eq ht hq, substitute_of_not_hasPlaceholder h.1, substitute_of_not_hasPlaceholder h.2]

end Template

open Template (HasPlainPlace HasPlaceholder Shows)

namespace Target

theorem shows_phrase {t : Target} {p : Phrase} (h : '\x7b' ∉ (t.phrase p).toList) :
    Shows (t.phrase p) := by
  have hne : (t.phrase p).toList ≠ [] := by simpa using t.phrase_ne_empty p
  obtain ⟨c, r, hc⟩ := List.exists_cons_of_ne_nil hne
  refine ⟨c, r, hc, ?_⟩
  rintro rfl
  exact h (hc ▸ List.mem_cons_self ..)

theorem shows_argument {t : Target} {text : DataType → String} (h : ∀ type, Shows (text type))
    (hn : Shows (t.phrase .null)) (type : DataType) (p : Template.Placeholder) :
    Shows (t.argument [text] type p) := by
  unfold argument
  split
  next x hx =>
    obtain ⟨i, -, hi⟩ := Option.bind_eq_some_iff.1 hx
    have hx : x ∈ [text] := List.mem_of_getElem? hi
    rw [List.mem_singleton.1 hx]
    exact h _
  next => exact hn

end Target

theorem PhraseTable.phrase_target (table : PhraseTable) {p : Phrase}
    (h : p.takesOperand = false) :
    (Target.mk (some table.dialect)).phrase p = Phrase.completed table.phrase p := by
  rw [table.dialect_eq_withPhrases, Dialect.phrase_withPhrases, h]
  rfl

/-- a concatenation by a template that is filled in as for a function with the right side as its
parameter -/
def Expr.filledAppend (left : Expr) (v : Operand) (template : String) (t : Target) (ctx : Context) :
    String :=
  Template.filled template (t.argument [v.textFor t ctx.inner] .varchar) (left.sql t ctx.inner)

/-- A template with a place for the left side is filled in if it has one place for the right, `{0}`,
after that. Any other template comes out as another text, whatever the left side is, as long as the
right side shows at each type. Without placeholders the right side comes after the template. -/
theorem sql_append_template (table : PhraseTable) {template : String}
    (hm : Phrase.hasMark template = true) (hn : '\x7b' ∉ (table.phrase .null).toList) :
    let t : Target := ⟨some (table.set .concatExpr template).dialect⟩
    table.add (.concatExpr, template) = .ok (table.set .concatExpr template) ∧
      ∀ (left : Expr) (v : Operand) (place : Place) (ctx : Context),
        let sql := (left.append v place).sql t ctx
        let filled := left.filledAppend v template t ctx
        (HasPlainPlace template → sql = filled) ∧
          ((∀ type, Shows (v.textFor t ctx.inner type)) → sql = filled → HasPlainPlace template) ∧
          (¬ HasPlaceholder template.toList → sql = filled ++ v.sql .varchar ", " t ctx.inner) := by
  intro t
  have hm : '?' ∈ template.toList := by simpa [Phrase.hasMark] using hm
  have ht : t.phrase .concatExpr = template := by
    have hne : template ≠ "" := by
      rintro rfl
      cases hm
    rw [PhraseTable.phrase_target _ rfl, Phrase.completed, table.phrase_set_self,
      if_neg (by simpa using hne)]
  have hn : Shows (t.phrase .null) := by
    refine Target.shows_phrase ?_
    rw [PhraseTable.phrase_target _ rfl, Phrase.completed, table.phrase_set_of_ne (by decide)]
    split
    · decide
    · exact hn
  refine ⟨rfl, fun left v place ctx => ?_⟩
  intro sql filled
  have hs : sql = Template.concatenated template (left.sql t ctx.inner)
      fun separator => v.sql .varchar separator t ctx.inner := by
    rw [← ht]
    exact Node.sql_concat ..
  rw [hs]
  refine ⟨fun h => h.concatenated_eq rfl _, fun hv h => ?_, fun h => ?_⟩
  · exact Template.hasPlainPlace_of_concatenated (t.shows_argument hv hn .varchar) hm rfl h
  · exact Template.concatenated_of_not_hasPlaceholder h hm _

theorem sql_append_template_function :
    let template := "concat(?, {0})"
    let table := PhraseTable.ofBase .generic
    let t : Target := ⟨some (table.set .concatExpr template).dialect⟩
    Phrase.hasMark template = true ∧ '\x7b' ∉ (table.phrase .null).toList ∧
      ∀ (left : Expr) (v : Operand) (place : Place) (ctx : Context),
        (left.append v place).sql t ctx = left.filledAppend v template t ctx := by
  have hm : Phrase.hasMark "concat(?, {0})" = true := by decide
  have hn : '\x7b' ∉ ((PhraseTable.ofBase .generic).phrase .null).toList := by decide
  have hp : HasPlainPlace "concat(?, {0})" :=
    ⟨"concat(".toList, ", ".toList, ")".toList, rfl, by decide,
      Template.not_hasPlaceholder_of_not_mem (by decide),
      Template.not_hasPlaceholder_of_not_mem (by decide),
      Template.not_hasPlaceholder_of_not_mem (by decide)⟩
  exact ⟨hm, hn, fun left v place ctx => ((sql_append_template _ hm hn).2 left v place ctx).1 hp⟩

/-- A place with a type is not found, nor is one in front of the left side, and the right side comes
after the template. -/
theorem sql_append_template_typed :
    let a : Expr := .column ⟨none, "A", .varchar⟩ [0]
    let x : Operand := .ofText "x"
    (∃ table, PhraseTable.ofOverrides .generic [(.concatExpr, "concat(?, {0:VARCHAR})")] =
        .ok table ∧
      (a.append x [1]).sql ⟨some table.dialect⟩ .standard = "concat(A, {0:VARCHAR})'x'" ∧
      a.filledAppend x "concat(?, {0:VARCHAR})" ⟨some table.dialect⟩ .standard =
        "concat(A, 'x')") ∧
    ∃ table, PhraseTable.ofOverrides .generic [(.concatExpr, "concat({0}, ?)")] = .ok table ∧
      (a.append x [1]).sql ⟨some table.dialect⟩ .standard = "concat({0}, A)'x'" ∧
      a.filledAppend x "concat({0}, ?)" ⟨some table.dialect⟩ .standard = "concat('x', A)" :=
  ⟨⟨_, rfl, by decide +kernel⟩, ⟨_, rfl, by decide +kernel⟩⟩

end ColumnSql
