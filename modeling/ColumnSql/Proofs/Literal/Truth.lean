import ColumnSql.Proofs.Literal.Number

/-! Numbers as booleans. An integer is true if it is not zero. A number given as text, be it a
decimal constant or a text, is looked up among the words for true instead, and of the numbers only
the one written `1` is such a word. -/

namespace ColumnSql

open Decimal Text

section Words

variable {c : Char}

theorem Text.lowerChar_of_not_upper (hk : c.toNat ≠ 0x212a)
    (hu : ¬ (0x41 ≤ c.toNat ∧ c.toNat ≤ 0x5a)) : lowerChar c = c := by
  rw [lowerChar, if_neg hk]
  delta Char.toLower
  rw [dif_neg]
  simpa [UInt32.le_iff_toNat_le] using hu

/-- Of the characters of numbers only the mark of an exponent may be a capital. -/
theorem Text.lowerChar_of_isNumeralChar (h : isNumeralChar c = true) :
    lowerChar c = c ∨ c = 'E' := by
  rw [isNumeralChar, Bool.or_eq_true] at h
  rcases h with h | h
  · -- no digits stand among the capital letters, nor is the Kelvin sign one
    have hz : ∀ z ∈ zeros, (z + 9 < 0x41 ∨ 0x5a < z) ∧ (z + 9 < 0x212a ∨ 0x212a < z) := by decide
    obtain ⟨z, hm, hc⟩ := List.any_eq_true.1 h
    rw [Bool.and_eq_true, decide_eq_true_eq, decide_eq_true_eq] at hc
    obtain ⟨hu, hk⟩ := hz z hm
    exact .inl (lowerChar_of_not_upper (by omega) (by omega))
  · have hs : ['+', '-', '.', 'e', 'E'].all (fun d => lowerChar d = d ∨ d = 'E') = true := by
      decide
    exact of_decide_eq_true (List.all_eq_true.1 hs c (List.contains_iff_mem.1 h))

theorem Text.isNumeralChar_lowerChar (h : isNumeralChar c = true) :
    isNumeralChar (lowerChar c) = true := by
  rcases lowerChar_of_isNumeralChar h with hc | rfl
  · rwa [hc]
  · decide

end Words

/-- Of the numbers between blanks, only that written `1` is a word for true. -/
theorem Value.isTrueText_iff_of_spells {n : Numeral} {s : String} (h : n.Spells s.toList) :
    isTrueText s = true ↔ n.text = ['1'] := by
  have hc := numeralChars_of_isDecimal n.isDecimal_text
  have hl : lowered (trimmed s) = String.ofList (n.text.map lowerChar) := by
    rw [lowered, trimmed, ← Numeral.spells_iff.1 h, String.toList_ofList]
  rw [isTrueText, hl, List.contains_iff_mem]
  constructor
  · intro hw
    have hw' : n.text.map lowerChar ∈ ["1", "true", "y", "yes"].map String.toList := by
      simpa using List.mem_map_of_mem (f := String.toList) hw
    have hn : (n.text.map lowerChar).all isNumeralChar = true := by
      simpa using fun d hd => isNumeralChar_lowerChar (hc d hd)
    have h1 : n.text.map lowerChar = ['1'] := by
      generalize n.text.map lowerChar = w at hw' hn
      revert w
      decide
    obtain ⟨c, hs, hd⟩ := List.map_eq_singleton_iff.1 h1
    rcases lowerChar_of_isNumeralChar (hc c (by simp [hs])) with he | rfl
    · rw [hs, ← hd, he]
    · exact absurd hd (by decide)
  · intro ht
    rw [ht]
    decide

theorem Decimal.intText_injective {j k : Int} (h : intText j = intText k) : j = k := by
  obtain ⟨m, hm, hj⟩ := Numeral.exists_intText j
  obtain ⟨n, hn, hk⟩ := Numeral.exists_intText k
  have he : m = n := Numeral.text_injective (by rw [hm, hn, h])
  rw [he, hk] at hj
  exact (Rat.intCast_inj.1 hj).symm

theorem Value.isTrueText_plain_iff (n : Int64) : isTrueText (int n).plain = true ↔ n = 1 := by
  obtain ⟨m, hm, -⟩ := Numeral.exists_intText n.toInt
  have hs : m.Spells (int n).plain.toList := by
    rw [Numeral.spells_iff, plain, String.toList_ofList, ← hm, m.isTrim_text.trim_eq]
  rw [isTrueText_iff_of_spells hs, hm]
  constructor
  · intro h
    exact Int64.toInt_inj.1 (intText_injective h)
  · rintro rfl
    rfl

theorem Value.plain_int_ne_empty (n : Int64) : (int n).plain ≠ "" := by
  intro h
  have hn : intText n.toInt = [] := by simpa [plain] using congrArg String.toList h
  have hi := isInteger_intText n.toInt
  rw [hn] at hi
  cases hi

theorem Literal.ofValue_bool (phrase : Phrase → String) (quote : String → String) {v : Value}
    (he : v.isEmpty = false) (hr : v.isRaw = false) (hn : v ≠ .now) :
    ofValue phrase quote v .bool = phrase (if v.isTrue then .booleanTrue else .booleanFalse) := by
  rw [ofValue_eq, form_eq_typedForm he hr hn (by decide)]
  rfl

theorem Builtin.literal_bool (b : Builtin) {v : Value} (he : v.isEmpty = false)
    (hr : v.isRaw = false) (hn : v ≠ .now) : b.dialect.literal v .bool =
      b.template (if v.isTrue then .booleanTrue else .booleanFalse) :=
  Literal.ofValue_bool b.template b.quoteText he hr hn

theorem Builtin.template_true_ne_false (b : Builtin) :
    b.template .booleanTrue ≠ b.template .booleanFalse := by
  cases b <;> decide

/-- Being one and being other than zero agree for zero and one only. -/
theorem Builtin.template_bool_eq_iff (b : Builtin) (n : Int64) :
    b.template (if n = 1 then .booleanTrue else .booleanFalse) =
      b.template (if n = 0 then .booleanFalse else .booleanTrue) ↔ n = 0 ∨ n = 1 := by
  have hb := b.template_true_ne_false
  by_cases h₀ : n = 0
  · subst h₀
    simp
  · by_cases h₁ : n = 1 <;> simp [h₀, h₁, hb.symm]

/-- An integer at the type of booleans is the phrase for false if it is zero, and that for true if
not. Its text, as a decimal constant or as a text, is the phrase for true if it is one, and that for
false if not. So in each built-in dialect the three agree for zero and one, and for no other
integer. -/
theorem literal_bool_integer (b : Builtin) (n : Int64) :
    let literal (v : Value) := b.dialect.literal v .bool
    let s := (Value.int n).plain
    literal (.int n) = b.template (if n = 0 then .booleanFalse else .booleanTrue) ∧
      literal (.decimal s) = b.template (if n = 1 then .booleanTrue else .booleanFalse) ∧
      literal (.text s) = b.template (if n = 1 then .booleanTrue else .booleanFalse) ∧
      (literal (.decimal s) = literal (.int n) ↔ n = 0 ∨ n = 1) ∧
      (literal (.text s) = literal (.int n) ↔ n = 0 ∨ n = 1) := by
  intro literal s
  have ht : (if Value.isTrueText s then Phrase.booleanTrue else .booleanFalse) =
      if n = 1 then .booleanTrue else .booleanFalse := by
    simp only [s, Value.isTrueText_plain_iff]
  have hi : literal (.int n) = b.template (if n = 0 then .booleanFalse else .booleanTrue) := by
    refine (b.literal_bool rfl rfl (by simp)).trans ?_
    rw [Value.isTrue]
    by_cases h : n = 0 <;> simp [h]
  have hd : literal (.decimal s) = b.template (if n = 1 then .booleanTrue else .booleanFalse) := by
    refine (b.literal_bool rfl rfl (by simp)).trans ?_
    rw [Value.isTrue, ht]
  have hx : literal (.text s) = b.template (if n = 1 then .booleanTrue else .booleanFalse) := by
    have he := Value.isEmpty_text (Value.plain_int_ne_empty n)
    refine (b.literal_bool he rfl (by simp)).trans ?_
    rw [Value.isTrue, ht]
  rw [hd, hx, hi]
  exact ⟨rfl, rfl, rfl, b.template_bool_eq_iff n, b.template_bool_eq_iff n⟩

/-- Two is true, and its text is not. -/
theorem literal_bool_two :
    let literal (v : Value) := Builtin.generic.dialect.literal v .bool
    (Value.int 2).plain = "2" ∧ literal (.int 2) = "1" ∧ literal (.decimal "2") = "0" ∧
      literal (.text "2") = "0" := by
  decide +kernel

end ColumnSql
