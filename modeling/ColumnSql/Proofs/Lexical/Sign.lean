import ColumnSql.Dialect.Basic

/-! Literals with a minus sign. Of the constants other than raw SQL, only negative numbers have one
in front, and only at types of numbers. -/

namespace ColumnSql

namespace Lexical

open Decimal

def HasMinus (s : List Char) : Prop := s.head? = some '-'

theorem not_hasMinus_append {d : List Char} (hd : d ≠ []) (h : ∀ c ∈ d, c ≠ '-') (r : List Char) :
    ¬ HasMinus (d ++ r) := by
  cases d with
  | nil => exact absurd rfl hd
  | cons c d => simpa [HasMinus] using h c (List.mem_cons_self ..)

section Number

theorem ne_minus_of_mem_natText {n : Nat} {c : Char} (h : c ∈ natText n) : c ≠ '-' := by
  rintro rfl
  exact absurd (Nat.isDigit_of_mem_toDigits (by decide) (by decide) h) (by decide)

theorem not_hasMinus_natText (n : Nat) (r : List Char) : ¬ HasMinus (natText n ++ r) :=
  not_hasMinus_append Nat.toDigits_ne_nil (fun _ => ne_minus_of_mem_natText) r

theorem hasMinus_intText (n : Int) : HasMinus (intText n) ↔ n < 0 := by
  unfold intText
  split
  next h => simp [HasMinus, h]
  next h => simpa [h] using not_hasMinus_natText n.natAbs []

theorem not_hasMinus_positional (n : Nat) (point : Int) :
    ¬ HasMinus (Layout.positional (natText n) point) := by
  unfold Layout.positional
  split
  · simp [HasMinus]
  split
  · rw [List.append_assoc]
    exact not_hasMinus_natText n _
  next hp _ =>
    refine not_hasMinus_append ?_ (fun c hc => ne_minus_of_mem_natText (List.mem_of_mem_take hc)) _
    simpa [natText, Nat.toDigits_ne_nil] using hp

theorem not_hasMinus_scientific (l : Layout) (n : Nat) (point : Int) :
    ¬ HasMinus (l.scientific (natText n) point) := by
  unfold Layout.scientific
  dsimp only
  rw [List.append_assoc]
  split
  · exact not_hasMinus_natText n _
  · rw [List.append_assoc]
    refine not_hasMinus_append ?_ (fun c hc => ne_minus_of_mem_natText (List.mem_of_mem_take hc)) _
    simp [natText, Nat.toDigits_ne_nil]

theorem hasMinus_layoutText (l : Layout) {x : Float} (h : isFinite x = true) :
    HasMinus (l.text x).toList ↔ isNegative x = true := by
  have hn : isNaN x = false := by
    rw [isFinite, bne_iff_ne] at h
    simp [isNaN, h]
  have hd : ¬ HasMinus (l.digits (shortest x).1 (shortest x).2) := by
    unfold Layout.digits
    dsimp only
    split
    · exact not_hasMinus_positional _ _
    · exact not_hasMinus_scientific l _ _
  simp only [Layout.text, hn, h]
  by_cases hs : isNegative x = true
  · simp [hs, HasMinus]
  · by_cases hz : isZero x = true
    · simp [hs, hz, HasMinus]
    · simpa [hs, hz] using hd

end Number

section Literal

/-- the phrases that literals are or are made of -/
def literalPhrases : List Phrase :=
  [.null, .booleanTrue, .booleanFalse, .currentDate, .currentTime, .currentDateTime,
    .currentTimestamp, .dateTemplate, .timeTemplate, .dateTimeTemplate, .timestampTemplate]

def IsUnsigned (s : String) : Prop := '-' ∉ s.toList.head? ∧ '\x7b' ∉ s.toList.head?

theorem IsUnsigned.not_hasMinus {s : String} (h : IsUnsigned s) : ¬ HasMinus s.toList :=
  h.1

theorem isUnsigned_template (b : Builtin) :
    ∀ p ∈ literalPhrases, IsUnsigned (b.template p) ∧ IsUnsigned p.template := by
  unfold IsUnsigned
  cases b <;> decide +kernel

theorem not_hasMinus_replaceAll {s : String} (h : IsUnsigned s) (r : List Char) :
    ¬ HasMinus (Text.replaceAll ['\x7b', '0', '\x7d'] r s.toList) := by
  unfold IsUnsigned at h
  cases hs : s.toList with
  | nil => simp [Text.replaceAll, Text.replaceFrom, HasMinus]
  | cons c t =>
    obtain ⟨hm, hb⟩ : c ≠ '-' ∧ c ≠ '\x7b' := by simpa [hs] using h
    simp [Text.replaceAll, Text.replaceFrom, HasMinus, hm, Ne.symm hb]

variable (b : Builtin)

theorem not_hasMinus_moment {m : Calendar.Moment} {t : DataType} {s : String}
    (h : Literal.temporal? b.template m t = some s) : ¬ HasMinus s.toList := by
  have hm (p q : Phrase) (hp : p ∈ literalPhrases) (x : Calendar.DateTime) :
      ¬ HasMinus (Literal.ofMoment b.template p q x).toList := by
    rw [Literal.ofMoment, String.toList_ofList]
    obtain ⟨h₁, h₂⟩ := isUnsigned_template b p hp
    split
    · exact not_hasMinus_replaceAll h₂ _
    · exact not_hasMinus_replaceAll h₁ _
  unfold Literal.temporal? at h
  split at h <;> cases h <;> exact hm _ _ (by decide) _

theorem not_hasMinus_quoteText (s : String) : ¬ HasMinus (b.quoteText s).toList := by
  have h (s : String) : ¬ HasMinus (textLiteral s).toList := by
    simp [HasMinus, textLiteral, Text.quoted]
  cases b with
  | sqlServer =>
    rw [Builtin.quoteText, nationalLiteral]
    split
    · exact h s
    · simp [HasMinus]
  | _ => exact h s

/-- The constant is a negative number at type `t`, or SQL that begins with a minus sign. -/
def IsNegativeAt (v : Value) (t : DataType) : Prop :=
  let t := if t = .unknown then v.naturalType else t
  match v with
  | .raw sql => HasMinus sql.toList
  | .int n => t.isNumeric = true ∧ n < 0
  | .float x => t.isNumeric = true ∧ isFinite x = true ∧ isNegative x = true
  | .decimal s | .text s => t.isNumeric = true ∧ ∃ r ∈ Value.numberText? s t, HasMinus r.toList
  | _ => False

theorem hasMinus_number {v : Value} {t : DataType} (ht : t.isNumeric = true)
    (hr : v.isRaw = false) :
    HasMinus (Literal.number b.template b.quoteText v t).toList ↔ IsNegativeAt v t := by
  have hu : t ≠ .unknown := by
    rintro rfl
    cases ht
  have hn : ¬ HasMinus (b.template .null).toList :=
    (isUnsigned_template b .null (by decide)).1.not_hasMinus
  have hs (s : String) : HasMinus ((Value.numberText? s t).getD (b.quoteText s)).toList ↔
      ∃ r ∈ Value.numberText? s t, HasMinus r.toList := by
    cases Value.numberText? s t with
    | none => simpa using not_hasMinus_quoteText b s
    | some r => simp
  cases v with
  | int n =>
    simp [Literal.number, Value.plain, IsNegativeAt, hu, ht, hasMinus_intText,
      Int64.lt_iff_toInt_lt]
  | float x =>
    by_cases hx : isFinite x = true
    · simp [Literal.number, Value.plain, IsNegativeAt, hu, ht, hx, hasMinus_layoutText _ hx]
    · simp [Literal.number, IsNegativeAt, hx, hn]
  | bool c => cases c <;> simp [Literal.number, IsNegativeAt, HasMinus]
  | decimal s | text s => simpa [Literal.number, IsNegativeAt, hu, ht] using hs s
  | raw => cases hr
  | _ => simpa [Literal.number, IsNegativeAt] using hn

theorem not_isNegativeAt {v : Value} {t : DataType} (hu : t ≠ .unknown) (ht : t.isNumeric = false)
    (hr : v.isRaw = false) : ¬ IsNegativeAt v t := by
  cases v with
  | raw => cases hr
  | _ => simp [IsNegativeAt, hu, ht]

theorem hasMinus_typed {v : Value} {t : DataType} (ht : t ≠ .unknown) (hr : v.isRaw = false) :
    HasMinus (Literal.typed b.template b.quoteText v t).toList ↔ IsNegativeAt v t := by
  have hp (p : Phrase) (h : p ∈ literalPhrases) : ¬ HasMinus (b.template p).toList :=
    (isUnsigned_template b p h).1.not_hasMinus
  have hm : ¬ HasMinus ((v.moment?.bind fun m => Literal.temporal? b.template m t).getD
      (b.quoteText v.plain)).toList := by
    cases hb : v.moment?.bind fun m => Literal.temporal? b.template m t with
    | none => exact not_hasMinus_quoteText b _
    | some s =>
      obtain ⟨m, _, hs⟩ := Option.bind_eq_some_iff.1 hb
      exact not_hasMinus_moment b hs
  cases t with
  | unknown => exact absurd rfl ht
  | integer | autoInc | decimal | float => exact hasMinus_number b rfl hr
  | date | time | dateTime | timestamp => exact iff_of_false hm (not_isNegativeAt ht rfl hr)
  | varchar | char | clob | uniqueId =>
    exact iff_of_false (not_hasMinus_quoteText b _) (not_isNegativeAt ht rfl hr)
  | bool =>
    refine iff_of_false ?_ (not_isNegativeAt ht rfl hr)
    rw [Literal.typed]
    split <;> exact hp _ (by decide)
  | blob => exact iff_of_false (hp .null (by decide)) (not_isNegativeAt ht rfl hr)

theorem not_isNegativeAt_of_isEmpty {v : Value} (h : v.isEmpty = true) (t : DataType) :
    ¬ IsNegativeAt v t := by
  cases v with
  | null => exact id
  | text s =>
    obtain rfl : s = "" := by simpa [Value.isEmpty] using h
    have hn (t : DataType) : Value.numberText? "" t = none := by cases t <;> decide +kernel
    simp [IsNegativeAt, hn]
  | _ => cases h

/-- A literal begins with a minus sign only if it is that of a negative number. -/
theorem hasMinus_literal (v : Value) (t : DataType) :
    HasMinus (b.dialect.literal v t).toList ↔ IsNegativeAt v t := by
  have hp (p : Phrase) (h : p ∈ literalPhrases) : ¬ HasMinus (b.template p).toList :=
    (isUnsigned_template b p h).1.not_hasMinus
  change HasMinus (Literal.ofValue b.template b.quoteText v t).toList ↔ _
  by_cases he : v.isEmpty = true
  · rw [Literal.ofValue_of_isEmpty _ _ he]
    exact iff_of_false (hp .null (by decide)) (not_isNegativeAt_of_isEmpty he t)
  rw [Literal.ofValue.eq_def, if_neg he]
  split
  · rfl
  · exact iff_of_false (hp _ (by cases t <;> decide)) id
  next hr _ =>
    have ht : (if t = .unknown then v.naturalType else t) ≠ .unknown := by
      split
      next => cases v <;> simp_all [Value.naturalType, Value.isEmpty]
      next ht => exact ht
    have hr : v.isRaw = false := by
      cases v with
      | raw s => exact absurd rfl (hr s)
      | _ => rfl
    have hn : IsNegativeAt v t ↔ IsNegativeAt v (if t = .unknown then v.naturalType else t) := by
      simp only [IsNegativeAt, if_neg ht]
    rw [hn]
    exact hasMinus_typed b ht hr

end Literal

end Lexical

end ColumnSql
