import ColumnSql.Proofs.Calendar.RoundTrip
import ColumnSql.Proofs.Literal.Check
import ColumnSql.Proofs.Literal.Injection

/-! Texts that name a moment, beside the constants that are this moment. Both are written by the
same templates, since a text is read first. But the check of a text asks for a moment of any kind,
and that of a moment for one of the kind of its type. So a time of day passes at a type of days if
it is given as a text. There it has no template, and each of the two is quoted in its own
wording. -/

namespace ColumnSql

open Calendar

/-- a time of day at a type of days, or a day at the type of times of day -/
def Calendar.Moment.IsForeign (t : DataType) : Moment → Prop
  | .date _ => t = .time
  | .time _ => t ≠ .time
  | .dateTime _ => False

namespace Value

variable {s : String} {t : DataType}

theorem isEmpty_ofMoment (m : Moment) : (ofMoment m).isEmpty = false := by cases m <;> rfl

theorem isRaw_ofMoment (m : Moment) : (ofMoment m).isRaw = false := by cases m <;> rfl

theorem moment?_ofMoment (m : Moment) : (ofMoment m).moment? = some m := by cases m <;> rfl

theorem ofMoment_ne_now (m : Moment) : ofMoment m ≠ now := by cases m <;> simp [ofMoment]

/-- The kind of the moment that a text names does not matter to its check. -/
theorem check_text_temporal (hs : s ≠ "") (ht : t.isTemporal = true) :
    (text s).check t = .ok () ↔ ∃ m, Calendar.moment? s = some m := by
  obtain ⟨hn, -, hb⟩ := DataType.kind_of_isTemporal ht
  rw [check_eq_ok_iff (isEmpty_text hs) rfl]
  simp [Fits, hn, hb, ht, Option.isSome_iff_exists]

theorem check_ofMoment (m : Moment) (ht : t.isTemporal = true) :
    (ofMoment m).check t = .ok () ↔ ¬ m.IsForeign t := by
  obtain ⟨-, -, hb⟩ := DataType.kind_of_isTemporal ht
  rw [check_eq_ok_iff (isEmpty_ofMoment m) (isRaw_ofMoment m)]
  cases m with
  | date | dateTime => simp [ofMoment, Fits, Moment.IsForeign, hb]
  | time x =>
    have hk : t ≠ .date ∧ t ≠ .dateTime ∧ t ≠ .timestamp ↔ t = .time := by
      cases t <;> simp_all [DataType.isTemporal]
    simp [ofMoment, Fits, Moment.IsForeign, hb, hk]

end Value

namespace Literal

variable {s : String} {t : DataType} {m : Moment}

theorem form_temporal {v : Value} (he : v.isEmpty = false) (hr : v.isRaw = false) (hn : v ≠ .now)
    (ht : t.isTemporal = true) (hm : v.moment? = some m) :
    form v t = (momentForm? m t).getD (.quoted v.plain) := by
  obtain ⟨-, hu, -⟩ := DataType.kind_of_isTemporal ht
  rw [form_eq_typedForm he hr hn hu, typedForm_temporal v ht, hm, Option.bind_some]

theorem text_eq_moment_iff (phrase : Phrase → String) (quote : String → String) (hs : s ≠ "")
    (ht : t.isTemporal = true) (hm : Calendar.moment? s = some m) :
    ofValue phrase quote (.text s) t = ofValue phrase quote (.ofMoment m) t ↔
      ∀ x, m = .time x → t = .time ∨ quote s = quote x.text := by
  have hv : (Value.text s).moment? = some m := hm
  rw [ofValue_eq, ofValue_eq, form_temporal (Value.isEmpty_text hs) rfl (by simp) ht hv,
    form_temporal (Value.isEmpty_ofMoment m) (Value.isRaw_ofMoment m) (Value.ofMoment_ne_now m) ht
      (Value.moment?_ofMoment m)]
  cases hf : momentForm? m t with
  | some f =>
    have hn : ¬ (t ≠ .time ∧ ∃ x, m = .time x) := by
      rw [← momentForm?_eq_none_iff m ht, hf]
      simp
    refine iff_of_true rfl fun x hx => .inl ?_
    exact Decidable.byContradiction fun htt => hn ⟨htt, x, hx⟩
  | none =>
    obtain ⟨htt, x, rfl⟩ := (momentForm?_eq_none_iff m ht).1 hf
    simp [Form.text, Value.ofMoment, Value.plain, htt]

theorem quoteText_injective (b : Builtin) {s s' : String} (h : b.quoteText s = b.quoteText s') :
    s = s' := by
  have hr := Lexical.readText_quoteText b s
  rw [h, Lexical.readText_quoteText b s'] at hr
  have hr := Option.some_inj.1 hr
  exact String.toList_injective (congrArg Prod.fst hr).symm

/-- A text passes at a type of dates and times exactly if it names a moment, and the moment exactly
if it is not foreign there. The two are written alike in each dialect, foreign or not, unless the
moment is a time of day at a type of days: then a dialect must quote the text as it quotes the plain
form of the time, and the built-in ones do so only if the text is that form. -/
theorem check_text_beside_moment (hs : s ≠ "") (ht : t.isTemporal = true) :
    ((Value.text s).check t = .ok () ↔ ∃ m, Calendar.moment? s = some m) ∧
      ∀ m, Calendar.moment? s = some m →
        ((Value.ofMoment m).check t = .ok () ↔ ¬ m.IsForeign t) ∧
        (∀ phrase quote,
          ofValue phrase quote (.text s) t = ofValue phrase quote (.ofMoment m) t ↔
            ∀ x, m = .time x → t = .time ∨ quote s = quote x.text) ∧
        ∀ b : Builtin,
          b.dialect.literal (.text s) t = b.dialect.literal (.ofMoment m) t ↔
            ∀ x, m = .time x → t = .time ∨ s = x.text := by
  refine ⟨Value.check_text_temporal hs ht, fun m hm => ⟨Value.check_ofMoment m ht, ?_, ?_⟩⟩
  · exact fun phrase quote => text_eq_moment_iff phrase quote hs ht hm
  · intro b
    have hq (x : Time) : b.quoteText s = b.quoteText x.text ↔ s = x.text :=
      ⟨quoteText_injective b, congrArg b.quoteText⟩
    refine (text_eq_moment_iff b.template b.quoteText hs ht hm).trans ?_
    simp only [hq]

/-- half past twelve, as a text without its second -/
theorem check_text_beside_time_of_day :
    ∃ x, Calendar.moment? "12:30" = some (.time x) ∧ (Value.text "12:30").check .date = .ok () ∧
      (Value.time x).check .date ≠ .ok () ∧
      Builtin.generic.dialect.literal (.text "12:30") .date ≠
        Builtin.generic.dialect.literal (.time x) .date := by
  obtain ⟨x, hx, ht⟩ : ∃ x, Calendar.moment? "12:30" = some (.time x) ∧ x.text = "12:30:00" :=
    ⟨⟨12, 30, 0, 0, by decide, by decide, by decide, by decide⟩, rfl, rfl⟩
  obtain ⟨hc, hm⟩ := check_text_beside_moment (s := "12:30") (t := .date) (by decide) rfl
  obtain ⟨hf, -, hl⟩ := hm (.time x) hx
  refine ⟨x, hx, hc.2 ⟨_, hx⟩, ?_, ?_⟩
  · intro h
    exact hf.1 h nofun
  · intro h
    rcases (hl .generic).1 h x rfl with h | h
    · cases h
    · rw [ht] at h
      exact absurd h (by decide)

end Literal

end ColumnSql
