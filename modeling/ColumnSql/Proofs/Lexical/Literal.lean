import ColumnSql.Proofs.Lexical.Phrase
import ColumnSql.Proofs.Literal.Form

/-! Constants other than raw SQL are balanced as literals: they are in quotes, they are plain, or
they are phrases of the dialect. -/

namespace ColumnSql.Lexical

variable {q : Quotes} {phrase : Phrase → String} {quote : String → String}

theorem AcceptsAll.balanced (h : AcceptsAll phrase) {p : Phrase}
    (hp : ∀ s, acceptsTemplate p s = accepts (s.map .char)) : Balanced q (phrase p) :=
  .ofChars ((hp _).symm.trans (h p))

/-- The pattern of the dialect or, if it is none, the generic one makes a plain text. -/
theorem plain_momentText (h : AcceptsAll phrase) {pattern : Phrase}
    (hp : ∀ s, acceptsTemplate pattern s = isSimplePattern s) (t : Calendar.DateTime) :
    Plain (((t.format? (phrase pattern)).orElse fun _ => t.format? pattern.template).getD
      "").toList := by
  have h₁ : isSimplePattern (phrase pattern).toList = true := (hp _).symm.trans (h pattern)
  have h₂ : isSimplePattern pattern.template.toList = true :=
    (hp _).symm.trans (acceptsAll_template pattern)
  cases hs : t.format? (phrase pattern) with
  | some s => exact plain_format t h₁ hs
  | none =>
    rw [Option.orElse_none]
    cases hs : t.format? pattern.template with
    | some s => exact plain_format t h₂ hs
    | none => exact .nil

theorem balanced_ofMoment (h : AcceptsAll phrase) {template pattern : Phrase}
    (ht : ∀ s, acceptsTemplate template s = accepts (openTokens ['\x7b', '0', '\x7d'] 0 s))
    (hp : ∀ s, acceptsTemplate pattern s = isSimplePattern s) (t : Calendar.DateTime) :
    Balanced q (Literal.ofMoment phrase template pattern t) := by
  refine .replaceAll (plain_momentText h hp t) ((ht _).symm.trans ?_)
  split
  · exact acceptsAll_template template
  · exact h template

theorem balanced_literal (h : AcceptsAll phrase) (hq : ∀ s, Balanced q (quote s)) {v : Value}
    (hv : v.isRaw = false) (t : DataType) : Balanced q (Literal.ofValue phrase quote v t) := by
  have hf := Literal.isOf_form v t
  rw [Literal.ofValue_eq]
  cases hs : Literal.form v t with
  | phrase p =>
    rw [hs] at hf
    have hp : p ∈ Literal.constantPhrases := hf
    simp only [Literal.constantPhrases, List.mem_cons, List.not_mem_nil, or_false] at hp
    rcases hp with rfl | rfl | rfl | rfl | rfl | rfl | rfl <;> exact h.balanced fun _ => rfl
  | number s =>
    rw [hs] at hf
    exact .ofPlain (plain_of_isDecimal hf.2)
  | quoted s => exact hq s
  | moment template pattern x =>
    rw [hs] at hf
    have hp : (template, pattern) ∈ Literal.momentPhrases := hf
    simp only [Literal.momentPhrases, List.mem_cons, List.not_mem_nil, or_false,
      Prod.mk.injEq] at hp
    rcases hp with ⟨rfl, rfl⟩ | ⟨rfl, rfl⟩ | ⟨rfl, rfl⟩ | ⟨rfl, rfl⟩ <;>
      exact balanced_ofMoment h (fun _ => rfl) (fun _ => rfl) x
  | verbatim s =>
    rw [hs] at hf
    obtain rfl : v = .raw s := hf
    cases hv

end ColumnSql.Lexical
