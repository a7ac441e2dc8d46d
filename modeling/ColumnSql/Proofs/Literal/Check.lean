import ColumnSql.Dialect.Basic
import ColumnSql.Proofs.Literal.Form

/-! The check of constants beside their literals. A number that is not finite does not pass, nor
does a text that is no number or no moment where the type asks for one. But some constants of
another kind than the type do, and these are written as null or in quotes. -/

namespace ColumnSql

open Calendar Decimal

theorem DataType.kind_of_isNumeric {t : DataType} (h : t.isNumeric = true) :
    t.isTemporal = false ∧ t ≠ .unknown ∧ t ≠ .blob := by
  cases t with
  | integer | autoInc | decimal | float => decide
  | _ => cases h

theorem DataType.kind_of_isTemporal {t : DataType} (h : t.isTemporal = true) :
    t.isNumeric = false ∧ t ≠ .unknown ∧ t ≠ .blob := by
  cases t with
  | date | time | dateTime | timestamp => decide
  | _ => cases h

namespace Value

theorem isEmpty_text {s : String} (hs : s ≠ "") : (text s).isEmpty = false := by
  simpa [isEmpty] using hs

/-- what the check asks of a constant that is neither SQL nor written as null -/
def Fits (v : Value) (t : DataType) : Prop :=
  t ≠ .blob ∧
    match v with
    | float x => isFinite x = true
    | decimal s => isDecimal s.toList = true
    | text s =>
      (t.isNumeric = true → (numberText? s t).isSome = true) ∧
        (t.isTemporal = true → (Calendar.moment? s).isSome = true)
    | time _ => t ≠ .date ∧ t ≠ .dateTime ∧ t ≠ .timestamp
    | date _ => t ≠ .time
    | _ => True

theorem fits_of_check {v : Value} {t : DataType} (h : v.check t = .ok ()) (he : v.isEmpty = false)
    (hr : v.isRaw = false) : v.Fits t := by
  unfold check at h
  rw [he, hr, Bool.or_false, if_neg (by decide)] at h
  split at h
  · cases h
  next hb =>
    refine ⟨hb, ?_⟩
    cases v with
    | float x =>
      dsimp only at h ⊢
      split at h
      next hx => exact hx
      next => cases h
    | decimal s =>
      dsimp only at h ⊢
      split at h
      next hs => exact hs
      next => cases h
    | text s =>
      dsimp only at h ⊢
      split at h
      next => cases h
      next hn =>
        split at h
        next => cases h
        next hm =>
          simp only [not_and, Bool.not_eq_true, Option.isNone_eq_false_iff] at hn hm
          exact ⟨hn, hm⟩
    | time x =>
      dsimp only at h ⊢
      split at h
      next => cases h
      next ht => simpa [not_or] using ht
    | date d =>
      dsimp only at h ⊢
      split at h
      next => cases h
      next ht => exact ht
    | _ => trivial

theorem check_of_fits {v : Value} {t : DataType} (h : v.Fits t) (he : v.isEmpty = false)
    (hr : v.isRaw = false) : v.check t = .ok () := by
  obtain ⟨hb, h⟩ := h
  have hg : ¬ (v.isEmpty || v.isRaw) = true := by simp [he, hr]
  cases v with
  | float x => rw [check, if_neg hg, if_neg hb, if_pos h]
  | decimal s => rw [check, if_neg hg, if_neg hb, if_pos h]
  | text s =>
    have hn : ¬ (t.isNumeric = true ∧ (numberText? s t).isNone = true) := by
      rintro ⟨ht, hs⟩
      exact absurd (h.1 ht) (by simpa using hs)
    have hm : ¬ (t.isTemporal = true ∧ (Calendar.moment? s).isNone = true) := by
      rintro ⟨ht, hs⟩
      exact absurd (h.2 ht) (by simpa using hs)
    rw [check, if_neg hg, if_neg hb, if_neg hn, if_neg hm]
  | time x =>
    have ht : ¬ (t = .date ∨ t = .dateTime ∨ t = .timestamp) := by
      rintro (rfl | rfl | rfl)
      · exact h.1 rfl
      · exact h.2.1 rfl
      · exact h.2.2 rfl
    rw [check, if_neg hg, if_neg hb, if_neg ht]
  | date d => rw [check, if_neg hg, if_neg hb, if_neg h]
  | _ => simp only [check, if_neg hg, if_neg hb]

theorem check_eq_ok_iff {v : Value} {t : DataType} (he : v.isEmpty = false)
    (hr : v.isRaw = false) : v.check t = .ok () ↔ v.Fits t :=
  ⟨fun h => fits_of_check h he hr, fun h => check_of_fits h he hr⟩

theorem numberText_eq_none_iff {s : String} {t : DataType} (h : isDecimal s.toList = true) :
    numberText? s t = none ↔ t.isWhole = true ∧ isInteger s.toList = false := by
  unfold numberText?
  rw [trim_of_isDecimal h]
  cases t.isWhole <;> simp [h]

end Value

namespace Literal

/-- A constant that is there is written as null; or it is written as a text at a type of numbers or
of dates and times. -/
def Degraded (v : Value) (t : DataType) : Prop :=
  v.isEmpty = false ∧
    (form v t = .phrase .null ∨
      (t.isNumeric = true ∨ t.isTemporal = true) ∧ form v t = .quoted v.plain)

/-- The constant is of another kind than the type: a decimal number that is not whole at a type of
whole numbers, a moment at a type of numbers, a number or truth value at a type of moments, or a
text that is a time of day at a type of days. -/
def Mismatched (v : Value) (t : DataType) : Prop :=
  match v with
  | .decimal s => t.isWhole = true ∧ isInteger s.toList = false ∨ t.isTemporal = true
  | .bool _ | .int _ | .float _ => t.isTemporal = true
  | .date _ | .time _ | .dateTime _ => t.isNumeric = true
  | .text s => t.isTemporal = true ∧ t ≠ .time ∧ ∃ x, Calendar.moment? s = some (.time x)
  | _ => False

variable {v : Value} {t : DataType}

theorem form_eq_typedForm (he : v.isEmpty = false) (hr : v.isRaw = false) (hn : v ≠ .now)
    (ht : t ≠ .unknown) : form v t = typedForm v t := by
  unfold form
  rw [he, if_neg (by decide), if_neg ht]
  cases v with
  | raw => cases hr
  | now => exact absurd rfl hn
  | _ => rfl

theorem typedForm_numeric (v : Value) (ht : t.isNumeric = true) :
    typedForm v t = numberForm v t := by
  cases t with
  | integer | autoInc | decimal | float => rfl
  | _ => cases ht

theorem typedForm_temporal (v : Value) (ht : t.isTemporal = true) :
    typedForm v t = (v.moment?.bind fun m => momentForm? m t).getD (.quoted v.plain) := by
  cases t with
  | date | time | dateTime | timestamp => rfl
  | _ => cases ht

/-- A day has a literal at each type of moments, a time of day at its own only. -/
theorem momentForm?_eq_none_iff (m : Moment) (ht : t.isTemporal = true) :
    momentForm? m t = none ↔ t ≠ .time ∧ ∃ x, m = .time x := by
  cases m with
  | time x => cases t <;> simp_all [momentForm?, DataType.isTemporal]
  | date | dateTime => cases t <;> simp_all [momentForm?, DataType.isTemporal]

theorem momentForm?_ne_null {m : Moment} {f : Form} (h : momentForm? m t = some f) :
    f ≠ .phrase .null ∧ f ≠ .quoted v.plain := by
  unfold momentForm? at h
  split at h <;> cases h <;> simp

theorem degraded_numeric (ht : t.isNumeric = true) (hf : v.Fits t) (he : v.isEmpty = false)
    (hr : v.isRaw = false) (hn : v ≠ .now) : Degraded v t ↔ Mismatched v t := by
  obtain ⟨hm, hu, -⟩ := DataType.kind_of_isNumeric ht
  rw [Degraded, form_eq_typedForm he hr hn hu, typedForm_numeric v ht]
  obtain ⟨-, hf⟩ := hf
  cases v with
  | null => cases he
  | raw => cases hr
  | now => exact absurd rfl hn
  | bool | int => simp [numberForm, Mismatched, hm]
  | float x =>
    have hx : isFinite x = true := hf
    simp [numberForm, Mismatched, hm, hx]
  | decimal s =>
    -- the one case in which a number is no number of its type
    cases hs : Value.numberText? s t with
    | none =>
      have hw := (Value.numberText_eq_none_iff hf).1 hs
      simp [numberForm, Mismatched, hs, he, ht, hw, Value.plain]
    | some r =>
      have hn : Value.numberText? s t ≠ none := by simp [hs]
      have hw := (not_congr (Value.numberText_eq_none_iff hf)).1 hn
      simpa [numberForm, Mismatched, hs, hm] using hw
  | text s =>
    obtain ⟨r, hs⟩ := Option.isSome_iff_exists.1 (hf.1 ht)
    simp [numberForm, Mismatched, hs, hm]
  | date | time | dateTime => simp [numberForm, Mismatched, he, ht]

theorem degraded_temporal (ht : t.isTemporal = true) (hf : v.Fits t) (he : v.isEmpty = false)
    (hr : v.isRaw = false) (hn : v ≠ .now) : Degraded v t ↔ Mismatched v t := by
  obtain ⟨hm, hu, -⟩ := DataType.kind_of_isTemporal ht
  have hd : Degraded v t ↔ v.moment?.bind (momentForm? · t) = none := by
    rw [Degraded, form_eq_typedForm he hr hn hu, typedForm_temporal v ht]
    cases hb : v.moment?.bind (momentForm? · t) with
    | none => simp [he, ht]
    | some f =>
      obtain ⟨m, -, hf⟩ := Option.bind_eq_some_iff.1 hb
      have := momentForm?_ne_null (v := v) hf
      simp [this]
  rw [hd]
  obtain ⟨-, hf⟩ := hf
  cases v with
  | null => cases he
  | raw => cases hr
  | now => exact absurd rfl hn
  | bool | int | float | decimal => simp [Value.moment?, Mismatched, ht]
  | date => simp [Value.moment?, Mismatched, hm, momentForm?_eq_none_iff _ ht]
  | dateTime => simp [Value.moment?, Mismatched, hm, momentForm?_eq_none_iff _ ht]
  | time x =>
    have hx : t = .time := by
      cases t <;> simp_all [DataType.isTemporal]
    simp [Value.moment?, Mismatched, hx, momentForm?, DataType.isNumeric]
  | text s =>
    obtain ⟨m, hs⟩ := Option.isSome_iff_exists.1 (hf.2 ht)
    simp [Value.moment?, Mismatched, hs, ht, momentForm?_eq_none_iff _ ht]

theorem form_ne_null (ht : t.isNumeric = false) (hm : t.isTemporal = false) (hf : v.Fits t)
    (he : v.isEmpty = false) (hr : v.isRaw = false) (hn : v ≠ .now) : form v t ≠ .phrase .null := by
  obtain ⟨hb, hf⟩ := hf
  have hbool (v : Value) : typedForm v .bool ≠ .phrase .null := by
    simp only [typedForm]
    split <;> simp
  by_cases hu : t = .unknown
  · subst hu
    cases v with
    | null => cases he
    | raw => cases hr
    | now => exact absurd rfl hn
    | bool b => exact hbool (.bool b)
    | float x =>
      have hx : isFinite x = true := hf
      simp [form, he, typedForm, numberForm, Value.naturalType, hx]
    | decimal s =>
      have hs : Value.numberText? s .decimal ≠ none := by
        simp [Value.numberText_eq_none_iff hf, DataType.isWhole]
      obtain ⟨r, hs⟩ := Option.ne_none_iff_exists'.1 hs
      simp [form, he, typedForm, numberForm, Value.naturalType, hs]
    | _ => simp [form, he, typedForm, numberForm, Value.naturalType, Value.moment?, momentForm?]
  · rw [form_eq_typedForm he hr hn hu]
    cases t with
    | unknown => exact absurd rfl hu
    | bool => exact hbool v
    | blob => exact absurd rfl hb
    | varchar | char | clob | uniqueId => simp [typedForm]
    | integer | autoInc | float | decimal => cases ht
    | date | time | dateTime | timestamp => cases hm

theorem not_mismatched (ht : t.isNumeric = false) (hm : t.isTemporal = false) :
    ¬ Mismatched v t := by
  have hw : t.isWhole = false := by cases t <;> first | rfl | cases ht
  cases v <;> simp [Mismatched, ht, hm, hw]

theorem not_degraded_now (t : DataType) : ¬ Degraded .now t := by
  cases t <;> simp [Degraded, form, nowPhrase, Value.isEmpty]

theorem degraded_iff (hf : v.Fits t) (he : v.isEmpty = false) (hr : v.isRaw = false) :
    Degraded v t ↔ Mismatched v t := by
  by_cases hn : v = .now
  · subst hn
    exact iff_of_false (not_degraded_now t) id
  cases ht : t.isNumeric with
  | true => exact degraded_numeric ht hf he hr hn
  | false =>
    cases hm : t.isTemporal with
    | true => exact degraded_temporal hm hf he hr hn
    | false =>
      refine iff_of_false ?_ (not_mismatched ht hm)
      simp [Degraded, form_ne_null ht hm hf he hr hn, ht, hm]

theorem not_mismatched_of_isEmpty (he : v.isEmpty = true) : ¬ Mismatched v t := by
  cases v with
  | null => exact id
  | text s =>
    obtain rfl : s = "" := by simpa [Value.isEmpty] using he
    rintro ⟨-, -, x, hx⟩
    have hn : Calendar.moment? "" = none := rfl
    rw [hn] at hx
    cases hx
  | _ => cases he

/-- The literals of what passes the check, by their forms. They are degraded for exactly the
constants of another kind than the type. -/
theorem degraded_iff_mismatched (h : v.check t = .ok ()) :
    (∀ b : Builtin, b.dialect.literal v t = (form v t).text b.template b.quoteText) ∧
      (Degraded v t ↔ Mismatched v t) := by
  refine ⟨fun b => ofValue_eq b.template b.quoteText v t, ?_⟩
  cases he : v.isEmpty with
  | true =>
    refine iff_of_false ?_ (not_mismatched_of_isEmpty he)
    simp [Degraded, he]
  | false =>
    cases hr : v.isRaw with
    | true =>
      obtain ⟨s, rfl⟩ : ∃ s, v = .raw s := by
        cases v with
        | raw s => exact ⟨s, rfl⟩
        | _ => cases hr
      simp [Degraded, Mismatched, form, Value.isEmpty]
    | false => exact degraded_iff (Value.fits_of_check h he hr) he hr

theorem degraded_iff_mismatched_date :
    (Value.date .first).check .integer = .ok () ∧
      Builtin.generic.dialect.literal (.date .first) .integer = "null" ∧
      Degraded (.date .first) .integer := by
  have hc : (Value.date .first).check .integer = .ok () := rfl
  have hm : Mismatched (.date .first) .integer := rfl
  obtain ⟨hs, hd⟩ := degraded_iff_mismatched hc
  exact ⟨hc, (hs .generic).trans rfl, hd.2 hm⟩

/-- The check takes a decimal number at a type of whole numbers, and the same number as a text it
does not take; the literal is that of a text. -/
theorem degraded_decimal :
    (Value.text "1.5").check .integer = .error (Value.invalid "1.5" (.notNumber .integer)) ∧
      (Value.decimal "1.5").check .integer = .ok () ∧ Degraded (.decimal "1.5") .integer ∧
      Builtin.generic.dialect.literal (.decimal "1.5") .integer = "'1.5'" := by
  have hn : Value.numberText? "1.5" .integer = none := rfl
  have hd : isDecimal ['1', '.', '5'] = true := rfl
  have hf : form (.decimal "1.5") .integer = .quoted "1.5" := by
    simp [form, Value.isEmpty, typedForm, numberForm, hn]
  refine ⟨?_, ?_, ⟨rfl, .inr ⟨.inl rfl, hf⟩⟩, ?_⟩
  · simp [Value.check, Value.isEmpty, Value.isRaw, hn, DataType.isNumeric]
  · simp [Value.check, Value.isEmpty, Value.isRaw, hd]
  · have hs := ofValue_eq Builtin.generic.template Builtin.generic.quoteText (.decimal "1.5")
      .integer
    rw [hf] at hs
    exact hs

end Literal

end ColumnSql
