import ColumnSql.Dialect.Basic
import ColumnSql.Proofs.Decimal.Grammar
import ColumnSql.Proofs.Literal.Check

/-! Texts as literals of the types of numbers. A text passes the check exactly if it is a number of
the type between blanks, and its literal is this number without its plus sign. The digits stay as
they are: those of another script are digits to the check as well, and then the literal is no number
of SQL. -/

namespace ColumnSql

open Decimal Text

namespace Decimal.Numeral

def IsOf (t : DataType) (n : Numeral) : Prop :=
  t.isWhole = true → n.fraction = none ∧ n.exponent = none

/-- a number of the type as SQL has it: `-12`, and where it need not be whole `.5e+3` -/
structure IsPlain (t : DataType) (n : Numeral) : Prop where
  sign_ne_plus : n.sign ≠ .plus
  isOf : n.IsOf t
  isAscii : n.IsAscii

/-- The text is the number between blanks. -/
def Spells (n : Numeral) (s : List Char) : Prop :=
  ∃ l r, Blanks l ∧ Blanks r ∧ s = l ++ n.text ++ r

variable {n : Numeral} {t : DataType}

theorem isTrim_text (n : Numeral) : IsTrim n.text :=
  .ofForall fun c hc => isBlank_of_isNumeralChar (numeralChars_of_isDecimal n.isDecimal_text c hc)

theorem spells_iff {s : List Char} : n.Spells s ↔ n.text = trim s := by
  constructor
  · rintro ⟨l, r, hl, hr, rfl⟩
    exact (trim_append hl n.isTrim_text hr).symm
  · intro h
    obtain ⟨l, r, hl, hr, hs, -⟩ := exists_trim s
    exact ⟨l, r, hl, hr, h ▸ hs⟩

theorem isPlain_bare_iff (h : n.IsOf t) : n.bare.IsPlain t ↔ n.IsAscii :=
  ⟨fun hp => hp.isAscii, fun ha => ⟨n.sign.bare_ne_plus, h, ha⟩⟩

theorem isNumber_iff (t : DataType) (s : List Char) :
    (if t.isWhole then isInteger s else isDecimal s) = true ↔
      ∃ n : Numeral, n.IsOf t ∧ n.text = s := by
  unfold IsOf
  cases t.isWhole with
  | true => simpa [and_assoc] using isInteger_iff_exists
  | false => simpa using isDecimal_iff

end Decimal.Numeral

namespace Value

variable {s : String} {t : DataType}

theorem numberText?_isSome_iff :
    (numberText? s t).isSome = true ↔ ∃ n : Numeral, n.IsOf t ∧ n.Spells s.toList := by
  simp only [Numeral.spells_iff]
  rw [← Numeral.isNumber_iff, numberText?]
  split <;> simp_all

theorem numberText?_of_spells {n : Numeral} (hn : n.IsOf t) (hs : n.Spells s.toList) :
    numberText? s t = some (String.ofList n.bare.text) := by
  have h := (Numeral.isNumber_iff t n.text).2 ⟨n, hn, rfl⟩
  rw [numberText?, ← Numeral.spells_iff.1 hs, if_pos h, n.withoutPlus_text]

example : numberText? " +1.50\n" .decimal = some "1.50" := rfl

theorem check_text_numeric (hs : s ≠ "") (ht : t.isNumeric = true) :
    (text s).check t = .ok () ↔ (numberText? s t).isSome = true := by
  obtain ⟨hm, -, hb⟩ := DataType.kind_of_isNumeric ht
  rw [check_eq_ok_iff (isEmpty_text hs) rfl]
  simp [Fits, hm, hb, ht]

end Value

namespace Literal

variable {s : String} {t : DataType}

theorem form_numeral {n : Numeral} (he : s ≠ "") (ht : t.isNumeric = true) (hn : n.IsOf t)
    (hs : n.Spells s.toList) : form (.text s) t = .number (String.ofList n.bare.text) := by
  obtain ⟨-, hu, -⟩ := DataType.kind_of_isNumeric ht
  rw [form_eq_typedForm (Value.isEmpty_text he) rfl (by simp) hu, typedForm_numeric _ ht,
    numberForm, Value.numberText?_of_spells hn hs]
  rfl

/-- A text passes at a type of numbers exactly if it is a number of the type between blanks. Then
its literal is that number without its plus sign and denotes the same; it is a number as SQL has it
exactly if the digits are those from 0 to 9. -/
theorem text_numeral (he : s ≠ "") (ht : t.isNumeric = true) :
    ((Value.text s).check t = .ok () ↔ ∃ n : Numeral, n.IsOf t ∧ n.Spells s.toList) ∧
      ∀ n : Numeral, n.IsOf t → n.Spells s.toList → ∀ b : Builtin,
        let sql := (b.dialect.literal (.text s) t).toList
        sql = n.bare.text ∧ (∀ m : Numeral, m.text = sql → m.value = n.value) ∧
          ((∃ m : Numeral, m.IsPlain t ∧ m.text = sql) ↔ n.IsAscii) := by
  refine ⟨(Value.check_text_numeric he ht).trans Value.numberText?_isSome_iff, ?_⟩
  intro n hn hs b sql
  have hl : sql = n.bare.text := by
    have h : b.dialect.literal (.text s) t = _ := ofValue_eq b.template b.quoteText (.text s) t
    rw [form_numeral he ht hn hs] at h
    simp only [sql, h, Form.text, String.toList_ofList]
  refine ⟨hl, ?_, ?_⟩
  · intro m hm
    rw [Numeral.text_injective (hm.trans hl), n.value_bare]
  · rw [← Numeral.isPlain_bare_iff hn]
    constructor
    · rintro ⟨m, hp, hm⟩
      rwa [← Numeral.text_injective (hm.trans hl)]
    · intro hp
      exact ⟨n.bare, hp, hl.symm⟩

/-- The three of Arabic script is written bare. -/
theorem text_numeral_arabic :
    let sql := Builtin.generic.dialect.literal (.text "٣") .integer
    (Value.text "٣").check .integer = .ok () ∧ sql = "٣" ∧
      (∀ m : Numeral, m.text = sql.toList → m.value = 3) ∧
      ¬ ∃ m : Numeral, m.IsPlain .integer ∧ m.text = sql.toList := by
  intro sql
  let n : Numeral :=
    ⟨.none, ['٣'], none, none, List.forall_mem_singleton.2 (by decide), nofun, .inl nofun⟩
  have hn : n.IsOf .integer := fun _ => ⟨rfl, rfl⟩
  have hs : n.Spells "٣".toList := Numeral.spells_iff.2 rfl
  have hv : n.value = 3 := by decide +kernel
  have ha : ¬ n.IsAscii := fun h => absurd (h '٣' (by decide)) (by decide)
  obtain ⟨hc, hl⟩ := text_numeral (s := "٣") (t := .integer) (by decide) rfl
  obtain ⟨hb, hm, hp⟩ := hl n hn hs .generic
  exact ⟨hc.2 ⟨n, hn, hs⟩, String.toList_injective hb, fun m h => (hm m h).trans hv,
    fun h => ha (hp.1 h)⟩

end Literal

end ColumnSql
