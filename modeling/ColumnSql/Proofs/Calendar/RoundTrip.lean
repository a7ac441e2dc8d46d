import ColumnSql.Proofs.Calendar.Pattern
import ColumnSql.Proofs.Decimal.Numeral
import ColumnSql.Proofs.Text.Blank
import ColumnSql.Value

/-! Dates and times read back from their plain forms. Each number is written in such a way that
reading stops where the next part begins: two digits, four digits, or a sign and as many digits as
there are. So all years of the calendar come back, and leap seconds as well. The fraction of a
second is not written, and it is all that is lost. -/

namespace ColumnSql

namespace Calendar

open Text Decimal

section Numbers

theorem digitsValue_fill (width n : Nat) : digitsValue (fill '0' width (natText n)) = n := by
  rw [digitsValue_eq_ofDigitChars, fill, Nat.ofDigitChars_append, Nat.ofDigitChars_replicate_zero,
    Nat.mul_zero, ← digitsValue_eq_ofDigitChars, digitsValue_natText]

theorem isDigit_of_mem_fill {width n : Nat} {c : Char} (h : c ∈ fill '0' width (natText n)) :
    c.isDigit = true := by
  rcases List.mem_append.1 h with h | h
  · rw [List.eq_of_mem_replicate h]
    decide
  · exact Nat.isDigit_of_mem_toDigits (by decide) (by decide) h

theorem fill_of_le {c : Char} {width : Nat} {s : List Char} (h : width ≤ s.length) :
    fill c width s = s := by
  simp [fill, Nat.sub_eq_zero_of_le h]

theorem digit_ofNat : ∀ d < 10, (Char.ofNat (48 + d)).isDigit = true ∧
    (Char.ofNat (48 + d)).toNat = 48 + d := by
  decide

theorem twoDigits_eq (n : Nat) :
    twoDigits n .zero = [Char.ofNat (48 + n / 10), Char.ofNat (48 + n % 10)] := by
  unfold twoDigits
  cases n / 10 <;> rfl

theorem twoDigits_zero {n : Nat} (h : n < 100) : (twoDigits n .zero).length = 2 ∧
    (∀ c ∈ twoDigits n .zero, c.isDigit = true) ∧ digitsValue (twoDigits n .zero) = n := by
  obtain ⟨ht, hv⟩ := digit_ofNat (n / 10) (by omega)
  obtain ⟨ht', hv'⟩ := digit_ofNat (n % 10) (by omega)
  rw [twoDigits_eq]
  refine ⟨rfl, by simp [ht, ht'], ?_⟩
  simp only [digitsValue, List.foldl_cons, List.foldl_nil, hv, hv']
  omega

theorem twoDigits_ne_nil {n : Nat} (h : n < 100) : twoDigits n .zero ≠ [] := by
  intro he
  have hl := (twoDigits_zero h).1
  rw [he] at hl
  cases hl

theorem yearText_of_mem {y : Int} (h : 0 ≤ y ∧ y ≤ 9999) :
    yearText y .zero = fill '0' 4 (natText y.natAbs) := by
  have hs : signOf y false = [] := by simp [signOf, h.1]
  rw [yearText, if_pos h]
  by_cases hy : 1000 ≤ y
  · have hl : ¬ (natText y.natAbs).length ≤ 3 := by
      rw [natText, Nat.length_toDigits_le_iff (by decide) (by decide)]
      omega
    rw [if_pos hy, fill_of_le (by omega)]
    simp [number, hs]
  · rw [if_neg hy]
    simp [number, hs]

theorem yearText_of_not_mem {y : Int} (h : ¬ (0 ≤ y ∧ y ≤ 9999)) :
    yearText y .zero = (if y < 0 then '-' else '+') :: fill '0' 4 (natText y.natAbs) := by
  rw [yearText, if_neg h]
  by_cases hy : y < 0 <;> simp [number, signOf, hy]

end Numbers

section Reading

variable {d r : List Char}

theorem exists_cons_digits (hd : ∀ c ∈ d, c.isDigit = true) (hn : d ≠ []) (r : List Char) :
    ∃ c s, d ++ r = c :: s ∧ c.isDigit = true := by
  obtain ⟨c, s, rfl⟩ := List.exists_cons_of_ne_nil hn
  exact ⟨c, s ++ r, rfl, hd c (List.mem_cons_self ..)⟩

theorem trimStart_digits (hd : ∀ c ∈ d, c.isDigit = true) (hn : d ≠ []) (r : List Char) :
    trimStart (d ++ r) = d ++ r := by
  obtain ⟨c, s, hs, hc⟩ := exists_cons_digits hd hn r
  rw [hs]
  exact trimStart_of_head (by rintro _ ⟨⟩; exact isBlank_of_isDigit hc)

/-- A number is read up to its width or to the first character that is no digit. -/
theorem digits?_append {width : Nat} (hd : ∀ c ∈ d, c.isDigit = true) (hn : d ≠ [])
    (hw : d.length ≤ width) (hr : d.length = width ∨ ∀ c ∈ r.head?, c.isDigit = false) :
    digits? width (d ++ r) = some (digitsValue d, r) := by
  have ht : (r.take (width - d.length)).takeWhile Char.isDigit = [] := by
    rcases hr with hr | hr
    · simp [hr]
    · cases r with
      | nil => simp
      | cons c r =>
        cases width - d.length with
        | zero => simp
        | succ n => simp [hr c rfl]
  have h : ((d ++ r).take width).takeWhile Char.isDigit = d := by
    rw [List.take_append, List.take_of_length_le hw, List.takeWhile_append_of_pos hd, ht,
      List.append_nil]
  simp [digits?, h, hn]

theorem twoDigits?_twoDigits {n : Nat} (h : n < 100) (r : List Char) :
    twoDigits? (twoDigits n .zero ++ r) = some (n, r) := by
  obtain ⟨hl, hd, hv⟩ := twoDigits_zero h
  have hn := twoDigits_ne_nil h
  rw [twoDigits?, trimStart_digits hd hn, digits?_append hd hn (Nat.le_of_eq hl) (.inl hl), hv]

theorem year?_minus (s : List Char) :
    year? ('-' :: s) = (digits? s.length s).map fun x => (-(x.1 : Int), x.2) := rfl

theorem year?_plus (s : List Char) :
    year? ('+' :: s) = (digits? s.length s).map fun x => ((x.1 : Int), x.2) := rfl

theorem year?_digits (hd : ∀ c ∈ d, c.isDigit = true) (hn : d ≠ []) (r : List Char) :
    year? (d ++ r) = (digits? 4 (d ++ r)).map fun x => ((x.1 : Int), x.2) := by
  obtain ⟨c, s, hs, hc⟩ := exists_cons_digits hd hn r
  rw [year?, trimStart_digits hd hn, hs]
  split
  next he => cases he; cases hc
  next he => cases he; cases hc
  next => rfl

/-- A year within four digits has all four, and any other has a sign. -/
theorem year?_yearText (y : Int) (hr : ∀ c ∈ r.head?, c.isDigit = false) :
    year? (yearText y .zero ++ r) = some (y, r) := by
  have hd : ∀ c ∈ fill '0' 4 (natText y.natAbs), c.isDigit = true := fun c => isDigit_of_mem_fill
  have hn : fill '0' 4 (natText y.natAbs) ≠ [] := by simp [fill, natText_ne_nil]
  have hv := digitsValue_fill 4 y.natAbs
  by_cases h : 0 ≤ y ∧ y ≤ 9999
  · have hl : (natText y.natAbs).length ≤ 4 := by
      rw [natText, Nat.length_toDigits_le_iff (by decide) (by decide)]
      omega
    have hl : (fill '0' 4 (natText y.natAbs)).length = 4 := by
      simp only [fill, List.length_append, List.length_replicate]
      omega
    rw [yearText_of_mem h, year?_digits hd hn, digits?_append hd hn (Nat.le_of_eq hl) (.inl hl), hv,
      Option.map_some, Int.natAbs_of_nonneg h.1]
  · have hw : digits? (fill '0' 4 (natText y.natAbs) ++ r).length
        (fill '0' 4 (natText y.natAbs) ++ r) = some (y.natAbs, r) := by
      rw [digits?_append hd hn (by simp) (.inr hr), hv]
    rw [yearText_of_not_mem h, List.cons_append]
    by_cases hy : y < 0
    · rw [if_pos hy, year?_minus, hw, Option.map_some,
        Int.ofNat_natAbs_of_nonpos (Int.le_of_lt hy), Int.neg_neg]
    · rw [if_neg hy, year?_plus, hw, Option.map_some, Int.natAbs_of_nonneg (Int.not_lt.1 hy)]

theorem after?_cons (c : Char) (s : List Char) : after? [c] (c :: s) = some s := by
  simp [after?]

end Reading

section Dates

theorem Date.toList_text (d : Date) :
    d.text.toList = yearText d.year .zero ++
      '-' :: (twoDigits d.month .zero ++ '-' :: twoDigits d.day .zero) := by
  simp [Date.text, itemsText, between, Item.text, Field.text]

theorem date?_text (d : Date) (r : List Char) : date? (d.text.toList ++ r) = some (d, r) := by
  have hm : d.month < 100 := by
    have := d.month_mem
    omega
  have hy := year?_yearText d.year (r := '-' :: (twoDigits d.month .zero ++
    '-' :: (twoDigits d.day .zero ++ r))) (by rintro _ ⟨⟩; decide)
  rw [d.toList_text]
  simp only [List.append_assoc, List.cons_append]
  simp only [date?, hy, Option.bind_eq_bind, Option.bind_some, after?_cons,
    twoDigits?_twoDigits hm, twoDigits?_twoDigits (day_lt d), d.of?_eq_some, pure]

end Dates

section Times

/-- the time without the fraction of its second; a leap second stays one -/
def Time.truncated (t : Time) : Time where
  hour := t.hour
  minute := t.minute
  second := t.second
  nanos := t.nanos / 1000000000 * 1000000000
  hour_lt := t.hour_lt
  minute_lt := t.minute_lt
  second_lt := t.second_lt
  nanos_lt := Nat.lt_of_le_of_lt (Nat.div_mul_le_self _ _) t.nanos_lt

theorem Time.truncated_eq_iff (t : Time) : t.truncated = t ↔ t.nanos % 1000000000 = 0 := by
  constructor
  · intro h
    have : t.nanos / 1000000000 * 1000000000 = t.nanos := congrArg Time.nanos h
    omega
  · intro h
    have : t.nanos / 1000000000 * 1000000000 = t.nanos := by omega
    cases t
    simpa only [truncated, Time.mk.injEq, true_and] using this

theorem hour_lt (t : Time) : t.hour < 100 := Nat.lt_trans t.hour_lt (by decide)

theorem minute_lt (t : Time) : t.minute < 100 := Nat.lt_trans t.minute_lt (by decide)

theorem Time.toList_text (t : Time) :
    t.text.toList = twoDigits t.hour .zero ++ ':' :: (twoDigits t.minute .zero ++
      ':' :: twoDigits (t.second + t.nanos / 1000000000) .zero) := by
  simp [Time.text, itemsText, clock, between, Item.text, Field.text]

/-- The second as it is written, which is 60 in a leap second, is read as the second. -/
theorem timeOf?_second (t : Time) :
    timeOf? t.hour t.minute (t.second + t.nanos / 1000000000) 0 = some t.truncated := by
  have h := t.truncated.of?_eq_some
  have hs := t.second_lt
  have hn := t.nanos_lt
  simp only [Time.truncated] at h
  by_cases hl : t.nanos < 1000000000
  · have hz : t.nanos / 1000000000 = 0 := Nat.div_eq_of_lt hl
    rw [timeOf?, if_neg (by omega), if_pos (by decide)]
    simpa [hz, Time.truncated] using h
  · have h59 : t.second = 59 := by
      split at hn
      next h59 => exact h59
      next => omega
    have ho : t.nanos / 1000000000 = 1 := by
      rw [if_pos h59] at hn
      omega
    rw [timeOf?, if_pos (by omega)]
    simpa [ho, h59, Time.truncated] using h

theorem hourMinute?_text {h m : Nat} (hh : h < 100) (hm : m < 100) (r : List Char) :
    hourMinute? (twoDigits h .zero ++ ':' :: (twoDigits m .zero ++ r)) = some (h, m, r) := by
  simp only [hourMinute?, Option.bind_eq_bind, Option.bind_some, twoDigits?_twoDigits hh,
    after?_cons, twoDigits?_twoDigits hm, pure]

theorem longTime?_text (t : Time) : longTime? t.text.toList = some (t.truncated, []) := by
  have hs := twoDigits?_twoDigits (second_lt t) []
  rw [List.append_nil] at hs
  rw [t.toList_text, longTime?]
  simp only [hourMinute?_text (hour_lt t) (minute_lt t), Option.bind_eq_bind, Option.bind_some,
    after?_cons, hs, fraction?, timeOf?_second, pure]

/-- A time of day is no date, since no dash follows the hour. -/
theorem date?_time (t : Time) : date? t.text.toList = none := by
  obtain ⟨hl, hd, -⟩ := twoDigits_zero (hour_lt t)
  have hn := twoDigits_ne_nil (hour_lt t)
  rw [t.toList_text, date?, year?_digits hd hn,
    digits?_append hd hn (by omega) (.inr (by rintro _ ⟨⟩; decide))]
  rfl

end Times

section Blanks

theorem isBlank_twoDigits {n : Nat} (h : n < 100) : ∀ c ∈ twoDigits n .zero, isBlank c = false :=
  fun c hc => isBlank_of_isDigit ((twoDigits_zero h).2.1 c hc)

theorem isBlank_yearText (y : Int) : ∀ c ∈ yearText y .zero, isBlank c = false := by
  have hd : ∀ c ∈ fill '0' 4 (natText y.natAbs), isBlank c = false :=
    fun c hc => isBlank_of_isDigit (isDigit_of_mem_fill hc)
  by_cases h : 0 ≤ y ∧ y ≤ 9999
  · rwa [yearText_of_mem h]
  · rw [yearText_of_not_mem h, List.forall_mem_cons]
    refine ⟨?_, hd⟩
    split <;> decide

theorem Date.isBlank_text (d : Date) : ∀ c ∈ d.text.toList, isBlank c = false := by
  have hm : d.month < 100 := by
    have := d.month_mem
    omega
  rw [d.toList_text]
  simp only [List.forall_mem_append, List.forall_mem_cons]
  exact ⟨isBlank_yearText _, by decide, isBlank_twoDigits hm, by decide,
    isBlank_twoDigits (day_lt d)⟩

theorem Time.isBlank_text (t : Time) : ∀ c ∈ t.text.toList, isBlank c = false := by
  rw [t.toList_text]
  simp only [List.forall_mem_append, List.forall_mem_cons]
  exact ⟨isBlank_twoDigits (Calendar.hour_lt t), by decide,
    isBlank_twoDigits (Calendar.minute_lt t), by decide,
    isBlank_twoDigits (Calendar.second_lt t)⟩

end Blanks

section Whole

variable {α : Type} {read : List Char → Option (α × List Char)} {s : List Char}

theorem whole?_of_nil {x : α} (h : read s = some (x, [])) : whole? read s = some x := by
  rw [whole?, h]

theorem whole?_of_cons {x : α} {c : Char} {r : List Char} (h : read s = some (x, c :: r)) :
    whole? read s = none := by
  rw [whole?, h]

theorem whole?_of_none (h : read s = none) : whole? read s = none := by
  rw [whole?, h]

theorem both?_of_none {middle : List Char → Option (List Char)}
    {time? : List Char → Option (Time × List Char)} (h : date? s = none) :
    both? middle time? s = none := by
  rw [both?, h]
  rfl

end Whole

section Moments

theorem moment?_date (d : Date) : moment? d.text = some (.date d) := by
  have h := date?_text d []
  rw [List.append_nil] at h
  have ht := (IsTrim.ofForall d.isBlank_text).trim_eq
  simp only [moment?, ht, whole?_of_nil h]
  rfl

theorem moment?_time (t : Time) : moment? t.text = some (.time t.truncated) := by
  have hd := date?_time t
  have ht := (IsTrim.ofForall t.isBlank_text).trim_eq
  simp only [moment?, ht, whole?_of_none hd, whole?_of_none (both?_of_none hd),
    whole?_of_nil (longTime?_text t)]
  rfl

/-- The date in front is not the whole text, so the time is read as well. -/
theorem moment?_dateTime (t : DateTime) :
    moment? t.text = some (.dateTime ⟨t.date, t.time.truncated⟩) := by
  have he : t.text.toList = t.date.text.toList ++ [' '] ++ t.time.text.toList := by
    simp [DateTime.text]
  have hn : t.date.text.toList ≠ [] ∧ t.time.text.toList ≠ [] := by
    simp [t.date.toList_text, t.time.toList_text]
  have ht : IsTrim t.text.toList := by
    rw [he]
    exact .append t.date.isBlank_text t.time.isBlank_text hn.1 hn.2 [' ']
  have hd : date? t.text.toList = some (t.date, ' ' :: t.time.text.toList) := by
    rw [he, List.append_assoc, date?_text]
    rfl
  have hs : trimStart (' ' :: t.time.text.toList) = t.time.text.toList :=
    trimStart_of_head (IsTrim.ofForall t.time.isBlank_text).head
  have hb : both? (fun s => some (trimStart s)) longTime? t.text.toList =
      some (⟨t.date, t.time.truncated⟩, []) := by
    simp only [both?, hd, Option.bind_eq_bind, Option.bind_some, hs, longTime?_text, pure]
  simp only [moment?, ht.trim_eq, whole?_of_cons hd, whole?_of_nil hb]
  rfl

def Moment.fraction : Moment → Nat
  | date _ => 0
  | time t => t.nanos % 1000000000
  | dateTime t => t.time.nanos % 1000000000

def Moment.truncated : Moment → Moment
  | date d => .date d
  | time t => .time t.truncated
  | dateTime t => .dateTime ⟨t.date, t.time.truncated⟩

theorem Moment.truncated_eq_iff (m : Moment) : m.truncated = m ↔ m.fraction = 0 := by
  cases m with
  | date d => exact iff_of_true rfl rfl
  | time t => simpa [truncated, fraction] using t.truncated_eq_iff
  | dateTime t =>
    obtain ⟨d, t⟩ := t
    simpa [truncated, fraction] using t.truncated_eq_iff

end Moments

end Calendar

namespace Value

open Calendar

def ofMoment : Moment → Value
  | .date d => .date d
  | .time t => .time t
  | .dateTime t => .dateTime t

theorem moment?_plain (m : Moment) : Calendar.moment? (ofMoment m).plain = some m.truncated := by
  cases m with
  | date d => exact moment?_date d
  | time t => exact moment?_time t
  | dateTime t => exact moment?_dateTime t

/-- The plain form of a moment reads back as the moment exactly if its second has no fraction. -/
theorem moment?_plain_eq_some_iff (m : Moment) :
    Calendar.moment? (ofMoment m).plain = some m ↔ m.fraction = 0 := by
  rw [moment?_plain, Option.some_inj, m.truncated_eq_iff]

/-- a leap second -/
example : Calendar.moment? "23:59:60" =
    some (.time ⟨23, 59, 59, 1000000000, by decide, by decide, by decide, by decide⟩) := rfl

end Value

end ColumnSql
