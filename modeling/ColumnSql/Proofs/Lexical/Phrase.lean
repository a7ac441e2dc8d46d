import ColumnSql.Proofs.Lexical.Plain
import ColumnSql.Proofs.Lexical.Template

/-! The templates of the built-in dialects are balanced, each in the way that its phrase is used. -/

namespace ColumnSql.Lexical

/-- whether a template of the phrase is balanced with texts in its places; quotes of names are not
written as they are -/
def acceptsTemplate (p : Phrase) (s : List Char) : Bool :=
  match p with
  | .quotesOpen | .quotesClose => true
  | .datePattern | .timePattern | .dateTimePattern | .timestampPattern => isSimplePattern s
  | .dateTemplate | .timeTemplate | .dateTimeTemplate | .timestampTemplate =>
    accepts (openTokens ['\x7b', '0', '\x7d'] 0 s)
  | .concatExpr => accepts (concatTokens s)
  | .concat => accepts (concatAllTokens s)
  | .decodePart | .decodeElse => accepts (templateTokens s)
  | p => accepts (if p.takesOperand then functionTokens s else s.map .char)

theorem acceptsTemplate_function {p : Phrase} (h : p.takesOperand = true) (s : List Char) :
    acceptsTemplate p s = accepts (functionTokens s) := by
  cases p <;> first
    | exact absurd h (by decide)
    | rfl

def AcceptsAll (phrase : Phrase → String) : Prop :=
  ∀ p, acceptsTemplate p (phrase p).toList = true

/-- The templates are literals, so their characters are taken from there. -/
theorem acceptsAll_template : AcceptsAll Phrase.template := by
  intro p
  obtain ⟨s, hs, h⟩ : ∃ s, p.template = String.ofList s ∧ acceptsTemplate p s = true := by
    cases p <;> exact ⟨_, rfl, by decide +kernel⟩
  rwa [hs, String.toList_ofList]

theorem acceptsAll_builtin (b : Builtin) : AcceptsAll b.template := by
  intro p
  obtain ht | ⟨s, hs, h⟩ : b.template p = p.template ∨
      ∃ s, b.template p = String.ofList s ∧ acceptsTemplate p s = true := by
    cases b <;> cases p <;> first
      | exact .inl rfl
      | exact .inr ⟨_, rfl, by decide +kernel⟩
  · rw [ht]
    exact acceptsAll_template p
  · rwa [hs, String.toList_ofList]

end ColumnSql.Lexical
