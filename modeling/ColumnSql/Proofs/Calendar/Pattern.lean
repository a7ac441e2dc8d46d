import ColumnSql.Calendar.Pattern

/-! The characters of dates and times as text. What stands for the year, the month and the other
numbers of a moment consists of digits and a few other characters, for all moments: also for years
beyond 9999, for those before the year 0 and for leap seconds. -/

namespace ColumnSql.Calendar

open Decimal

def isMomentChar (c : Char) : Bool := c.isDigit || [' ', '+', '-', ':', '/', '.'].contains c

def MomentChars (s : List Char) : Prop := ∀ c ∈ s, isMomentChar c = true

namespace MomentChars

theorem nil : MomentChars [] := by simp [MomentChars]

theorem cons {c : Char} {s : List Char} (hc : isMomentChar c = true) (h : MomentChars s) :
    MomentChars (c :: s) := by
  intro d hd
  rcases List.mem_cons.1 hd with rfl | hd
  · exact hc
  · exact h d hd

theorem append {s r : List Char} (hs : MomentChars s) (hr : MomentChars r) :
    MomentChars (s ++ r) := by
  intro c hc
  rcases List.mem_append.1 hc with hc | hc
  · exact hs c hc
  · exact hr c hc

end MomentChars

theorem isMomentChar_of_isDigit {c : Char} (h : c.isDigit = true) : isMomentChar c = true := by
  simp [isMomentChar, h]

theorem momentChars_natText (n : Nat) : MomentChars (natText n) := by
  intro c hc
  exact isMomentChar_of_isDigit (Nat.isDigit_of_mem_toDigits (by decide) (by decide) hc)

theorem momentChars_fill {c : Char} {s : List Char} (hc : isMomentChar c = true)
    (h : MomentChars s) (width : Nat) : MomentChars (fill c width s) := by
  refine MomentChars.append ?_ h
  intro d hd
  rw [List.eq_of_mem_replicate hd]
  exact hc

theorem isMomentChar_ofNat {n : Nat} (h : n < 10) : isMomentChar (Char.ofNat (48 + n)) = true := by
  have : ∀ n < 10, isMomentChar (Char.ofNat (48 + n)) = true := by decide
  exact this n h

/-- Only from 100 on might the tens be another character than a digit. -/
theorem momentChars_twoDigits {n : Nat} (h : n < 100) (pad : Pad) :
    MomentChars (twoDigits n pad) := by
  have h₁ : isMomentChar (Char.ofNat (48 + n % 10)) = true := isMomentChar_ofNat (by omega)
  have h₂ : isMomentChar (Char.ofNat (48 + n / 10)) = true := isMomentChar_ofNat (by omega)
  unfold twoDigits
  dsimp only
  split
  · exact .cons h₁ .nil
  · exact .cons (by decide) (.cons h₁ .nil)
  · exact .cons h₂ (.cons h₁ .nil)

theorem momentChars_number (width : Nat) (n : Int) (pad : Pad) (plus : Bool) :
    MomentChars (number width n pad plus) := by
  have hs : MomentChars (signOf n plus) := by
    unfold signOf
    split
    · exact .cons (by decide) .nil
    split
    · exact .cons (by decide) .nil
    · exact .nil
  have hd := momentChars_natText n.natAbs
  unfold number
  cases pad with
  | bare => exact hs.append hd
  | zero => exact hs.append (momentChars_fill (by decide) hd _)
  | space => exact momentChars_fill (by decide) (hs.append hd) _

theorem momentChars_yearText (y : Int) (pad : Pad) : MomentChars (yearText y pad) := by
  unfold yearText
  split
  · exact momentChars_number _ _ _ _
  · exact momentChars_number _ _ _ _

theorem momentChars_fractionDigits (t : Time) (count : Nat) :
    MomentChars (t.fractionDigits count) := by
  intro c hc
  exact momentChars_fill (by decide) (momentChars_natText _) 9 c (List.mem_of_mem_take hc)

theorem momentChars_fraction (t : Time) : MomentChars t.fraction := by
  unfold Time.fraction
  dsimp only
  split
  · exact .nil
  · exact .cons (by decide) (momentChars_fractionDigits t _)

theorem day_lt (d : Date) : d.day < 100 := by
  have h₁ := d.day_mem
  have h₂ : daysIn d.year d.month ≤ 31 := by
    unfold daysIn
    grind
  omega

theorem second_lt (t : Time) : t.second + t.nanos / 1000000000 < 100 := by
  have h₁ := t.second_lt
  have h₂ := t.nanos_lt
  split at h₂ <;> omega

def Item.isNumeric : Item → Bool
  | .field .year _ | .field .month _ | .field .day _ | .field .hour _ | .field .minute _
  | .field .second _ | .fraction | .fractionDigits .. => true
  | _ => false

theorem momentChars_item (t : DateTime) {x : Item} (h : x.isNumeric = true) :
    MomentChars (x.text t) := by
  cases x with
  | field f pad =>
    cases f with
    | year => exact momentChars_yearText _ pad
    | month =>
      have := t.date.month_mem
      exact momentChars_twoDigits (by omega) pad
    | day => exact momentChars_twoDigits (day_lt t.date) pad
    | hour =>
      have := t.time.hour_lt
      exact momentChars_twoDigits (by omega) pad
    | minute =>
      have := t.time.minute_lt
      exact momentChars_twoDigits (by omega) pad
    | second => exact momentChars_twoDigits (second_lt t.time) pad
    | _ => cases h
  | fraction => exact momentChars_fraction t.time
  | fractionDigits count point =>
    have hp : MomentChars (if point then ['.'] else []) := by
      split
      · exact .cons (by decide) .nil
      · exact .nil
    exact hp.append (momentChars_fractionDigits t.time count)
  | _ => cases h

def isNumericPattern (pattern : String) : Bool :=
  (items? pattern).any fun items => items.all fun
    | .char c => isMomentChar c
    | x => x.isNumeric

theorem exists_format {pattern : String} (h : isNumericPattern pattern = true) (t : DateTime) :
    ∃ s, t.format? pattern = some s ∧ MomentChars s.toList := by
  unfold isNumericPattern at h
  cases hi : items? pattern with
  | none => simp [hi] at h
  | some items =>
    rw [hi, Option.any_some, List.all_eq_true] at h
    refine ⟨_, by rw [DateTime.format?, hi]; rfl, ?_⟩
    rw [String.toList_ofList]
    intro c hc
    obtain ⟨x, hx, hc⟩ := List.mem_flatMap.1 hc
    have hx := h x hx
    cases x with
    | char d =>
      obtain rfl := List.mem_singleton.1 hc
      exact hx
    | _ => exact momentChars_item t hx c hc

end ColumnSql.Calendar
