import ColumnSql.Decimal.Layout
import ColumnSql.Decimal.Numeral
import ColumnSql.Text.Blank

/-! The written forms of numbers. Integers and floating point numbers are printed in such a form;
texts of such a form have a few characters only, none of them a blank, and stay of that form without
a plus sign. -/

namespace ColumnSql.Decimal

open Text

def isNumeralChar (c : Char) : Bool := isDigit c || ['+', '-', '.', 'e', 'E'].contains c

def Digits (s : List Char) : Prop := ∀ c ∈ s, isDigit c = true

section Digits

theorem digits_natText (n : Nat) : Digits (natText n) := by
  intro c hc
  exact isDigit_of_ascii (Nat.isDigit_of_mem_toDigits (by decide) (by decide) hc)

theorem natText_ne_nil (n : Nat) : natText n ≠ [] := Nat.toDigits_ne_nil

theorem digitsValue_eq_ofDigitChars (s : List Char) : digitsValue s = Nat.ofDigitChars 10 s 0 := by
  rw [digitsValue, Nat.ofDigitChars_eq_foldl]
  rfl

theorem digitsValue_natText (n : Nat) : digitsValue (natText n) = n := by
  rw [digitsValue_eq_ofDigitChars]
  exact Nat.ofDigitChars_ten_toDigits

theorem digits_replicate (n : Nat) : Digits (List.replicate n '0') := by
  intro c hc
  rw [List.eq_of_mem_replicate hc]
  decide

theorem Digits.append {s r : List Char} (hs : Digits s) (hr : Digits r) : Digits (s ++ r) := by
  intro c hc
  rcases List.mem_append.1 hc with h | h
  · exact hs c h
  · exact hr c h

theorem Digits.of_subset {s r : List Char} (h : Digits s) (hr : r ⊆ s) : Digits r := by
  intro c hc
  exact h c (hr hc)

theorem digits_takeWhile (s : List Char) : Digits (s.takeWhile isDigit) :=
  List.all_eq_true.1 List.all_takeWhile

theorem Digits.takeWhile_append {d r : List Char} (hd : Digits d)
    (hr : ∀ c ∈ r.head?, isDigit c = false) :
    (d ++ r).takeWhile isDigit = d ∧ (d ++ r).dropWhile isDigit = r := by
  rw [List.takeWhile_append_of_pos hd, List.dropWhile_append_of_pos hd]
  cases r with
  | nil => simp
  | cons c r => simp [hr c rfl]

theorem Digits.unsigned_append {d : List Char} (hd : Digits d) (hn : d ≠ []) (r : List Char) :
    unsigned (d ++ r) = d ++ r := by
  cases d with
  | nil => exact absurd rfl hn
  | cons c s =>
    have hc : ¬ (c = '+' ∨ c = '-') := by
      rintro (rfl | rfl)
      · exact absurd (hd '+' (by simp)) (by decide)
      · exact absurd (hd '-' (by simp)) (by decide)
    rw [List.cons_append, unsigned, if_neg hc]

theorem Digits.unsigned_eq {d : List Char} (hd : Digits d) (hn : d ≠ []) : unsigned d = d := by
  simpa using hd.unsigned_append hn []

end Digits

section Printed

theorem isInteger_of_digits {d : List Char} (hd : Digits d) (hn : d ≠ []) : isInteger d = true := by
  simp [isInteger, hd.unsigned_eq hn, hn, List.all_eq_true.2 hd]

theorem isInteger_minus {d : List Char} (hd : Digits d) (hn : d ≠ []) :
    isInteger ('-' :: d) = true := by
  simp [isInteger, unsigned, hn, List.all_eq_true.2 hd]

theorem isInteger_plus {d : List Char} (hd : Digits d) (hn : d ≠ []) :
    isInteger ('+' :: d) = true := by
  simp [isInteger, unsigned, hn, List.all_eq_true.2 hd]

theorem isInteger_intText (n : Int) : isInteger (intText n) = true := by
  unfold intText
  split
  · exact isInteger_minus (digits_natText _) (natText_ne_nil _)
  · exact isInteger_of_digits (digits_natText _) (natText_ne_nil _)

def Unsigned (s : List Char) : Prop := unsigned s = s ∧ isDecimal s = true

theorem Unsigned.minus {s : List Char} (h : Unsigned s) : isDecimal ('-' :: s) = true := by
  obtain ⟨hu, hs⟩ := h
  rwa [isDecimal, hu] at hs

theorem unsigned_append {d r : List Char} (hd : Digits d) (hn : d ≠ [])
    (hr : ∀ c ∈ r.head?, isDigit c = false) (h : isDecimalTail d r = true) : Unsigned (d ++ r) := by
  obtain ⟨ht, hw⟩ := hd.takeWhile_append hr
  have hu := hd.unsigned_append hn r
  exact ⟨hu, by rwa [isDecimal, hu, ht, hw]⟩

theorem isDecimalTail_exponent {d r : List Char} (hn : d ≠ []) (hr : '.' ∉ r.head?) :
    isDecimalTail d r = isExponent r := by
  unfold isDecimalTail
  split
  · exact absurd rfl hr
  · simp [hn]

theorem isDecimalTail_point {d f r : List Char} (hn : d ≠ []) (hf : Digits f)
    (hr : ∀ c ∈ r.head?, isDigit c = false) : isDecimalTail d ('.' :: (f ++ r)) = isExponent r := by
  obtain ⟨-, hw⟩ := hf.takeWhile_append hr
  simp [isDecimalTail, hn, hw]

theorem unsigned_point {d f : List Char} (hd : Digits d) (hn : d ≠ []) (hf : Digits f) :
    Unsigned (d ++ '.' :: f) := by
  refine unsigned_append hd hn (by rintro c ⟨⟩; decide) ?_
  simpa [isExponent] using isDecimalTail_point hn hf (r := []) (by simp)

theorem unsigned_positional {d : List Char} (hd : Digits d) (hn : d ≠ []) (point : Int) :
    Unsigned (Layout.positional d point) := by
  have h0 : Digits ['0'] := digits_replicate 1
  unfold Layout.positional
  split
  · exact unsigned_point h0 (by simp) ((digits_replicate _).append hd)
  split
  · exact unsigned_point (hd.append (digits_replicate _)) (by simp [hn]) h0
  next hp _ =>
    refine unsigned_point (hd.of_subset (List.take_subset _ _)) ?_
      (hd.of_subset (List.drop_subset _ _))
    simpa [hn] using hp

theorem isExponent_mark (l : Layout) (e : Int) :
    isExponent ((if l.plus && 0 ≤ e then ['e', '+'] else ['e']) ++ intText e) = true := by
  split
  next h =>
    have he : ¬ e < 0 := by
      simp only [Bool.and_eq_true, decide_eq_true_eq] at h
      omega
    simpa [isExponent, intText, he] using isInteger_plus (digits_natText _) (natText_ne_nil _)
  next => simpa [isExponent] using isInteger_intText e

theorem unsigned_scientific (l : Layout) {d : List Char} (hd : Digits d) (hn : d ≠ [])
    (point : Int) : Unsigned (l.scientific d point) := by
  have he := isExponent_mark l (point - 1)
  unfold Layout.scientific
  dsimp only
  rw [List.append_assoc]
  generalize hm : (if l.plus && 0 ≤ point - 1 then ['e', '+'] else ['e']) ++ intText (point - 1) = m
    at he
  -- whatever its sign, the exponent begins with its letter
  have hh : m.head? = some 'e' := by
    rw [← hm]
    split <;> rfl
  have hr : ∀ c ∈ m.head?, isDigit c = false := by
    rw [hh]
    rintro c ⟨⟩
    decide
  split
  · refine unsigned_append hd hn hr ?_
    rw [isDecimalTail_exponent hn (by simp [hh]), he]
  · have ht : d.take 1 ≠ [] := by simpa using hn
    rw [List.append_assoc, List.cons_append]
    refine unsigned_append (hd.of_subset (List.take_subset _ _)) ht (by rintro c ⟨⟩; decide) ?_
    rw [isDecimalTail_point ht (hd.of_subset (List.drop_subset _ _)) hr, he]

/-- A finite number is printed as a number. -/
theorem isDecimal_layoutText (l : Layout) {x : Float} (h : isFinite x = true) :
    isDecimal (l.text x).toList = true := by
  have hn : isNaN x = false := by
    rw [isFinite, bne_iff_ne] at h
    simp [isNaN, h]
  have hd : Unsigned (l.digits (shortest x).1 (shortest x).2) := by
    unfold Layout.digits
    dsimp only
    split
    · exact unsigned_positional (digits_natText _) (natText_ne_nil _) _
    · exact unsigned_scientific l (digits_natText _) (natText_ne_nil _) _
  have h0 : Unsigned ['0', '.', '0'] :=
    unsigned_point (digits_replicate 1) (by simp) (digits_replicate 1)
  unfold Layout.text
  simp only [hn, h, Bool.not_true, Bool.false_eq_true, if_false, String.toList_ofList]
  split
  · split
    · exact h0.minus
    · exact hd.minus
  · split
    · exact h0.2
    · exact hd.2

theorem isDecimal_of_isInteger {s : List Char} (h : isInteger s = true) : isDecimal s = true := by
  rw [isInteger, Bool.and_eq_true, List.all_eq_true] at h
  obtain ⟨hn, hd⟩ := h
  obtain ⟨ht, hw⟩ := Digits.takeWhile_append (r := []) hd (by simp)
  rw [List.append_nil] at ht hw
  rw [isDecimal, ht, hw, isDecimalTail_exponent (by simpa using hn) (by simp)]
  rfl

end Printed

section Characters

theorem isNumeralChar_of_isDigit {c : Char} (h : isDigit c = true) : isNumeralChar c = true := by
  simp [isNumeralChar, h]

theorem numeralChars_of_unsigned {s : List Char} (h : ∀ c ∈ unsigned s, isNumeralChar c = true) :
    ∀ c ∈ s, isNumeralChar c = true := by
  cases s with
  | nil => simp
  | cons d r =>
    rw [unsigned] at h
    split at h
    next hd =>
      intro c hc
      rcases List.mem_cons.1 hc with rfl | hc
      · rcases hd with rfl | rfl <;> decide
      · exact h c hc
    next => exact h

theorem numeralChars_of_isInteger {s : List Char} (h : isInteger s = true) :
    ∀ c ∈ s, isNumeralChar c = true := by
  rw [isInteger, Bool.and_eq_true, List.all_eq_true] at h
  exact numeralChars_of_unsigned fun c hc => isNumeralChar_of_isDigit (h.2 c hc)

theorem numeralChars_of_isExponent {s : List Char} (h : isExponent s = true) :
    ∀ c ∈ s, isNumeralChar c = true := by
  cases s with
  | nil => simp
  | cons d r =>
    rw [isExponent, Bool.and_eq_true] at h
    have hd : d = 'e' ∨ d = 'E' := by simpa using h.1
    intro c hc
    rcases List.mem_cons.1 hc with rfl | hc
    · rcases hd with rfl | rfl <;> decide
    · exact numeralChars_of_isInteger h.2 c hc

theorem numeralChars_of_dropWhile {s : List Char}
    (h : ∀ c ∈ s.dropWhile isDigit, isNumeralChar c = true) : ∀ c ∈ s, isNumeralChar c = true := by
  intro c hc
  rw [← List.takeWhile_append_dropWhile (p := isDigit) (l := s)] at hc
  rcases List.mem_append.1 hc with hc | hc
  · exact isNumeralChar_of_isDigit (digits_takeWhile s c hc)
  · exact h c hc

theorem numeralChars_of_isDecimalTail {whole s : List Char} (h : isDecimalTail whole s = true) :
    ∀ c ∈ s, isNumeralChar c = true := by
  unfold isDecimalTail at h
  split at h
  next r =>
    rw [Bool.and_eq_true] at h
    intro c hc
    rcases List.mem_cons.1 hc with rfl | hc
    · decide
    · exact numeralChars_of_dropWhile (numeralChars_of_isExponent h.2) c hc
  next =>
    rw [Bool.and_eq_true] at h
    exact numeralChars_of_isExponent h.2

theorem numeralChars_of_isDecimal {s : List Char} (h : isDecimal s = true) :
    ∀ c ∈ s, isNumeralChar c = true :=
  numeralChars_of_unsigned (numeralChars_of_dropWhile (numeralChars_of_isDecimalTail h))

def blanks : List Nat :=
  [9, 10, 11, 12, 13, 0x20, 0x85, 0xa0, 0x1680, 0x2000, 0x2001, 0x2002, 0x2003, 0x2004, 0x2005,
    0x2006, 0x2007, 0x2008, 0x2009, 0x200a, 0x2028, 0x2029, 0x202f, 0x205f, 0x3000]

theorem mem_blanks {c : Char} (h : isBlank c = true) : c.toNat ∈ blanks := by
  simp only [isBlank, Bool.or_eq_true, Bool.and_eq_true, decide_eq_true_eq, beq_iff_eq] at h
  simp only [blanks, List.mem_cons, List.not_mem_nil, or_false]
  omega

theorem isBlank_of_isNumeralChar {c : Char} (h : isNumeralChar c = true) : isBlank c = false := by
  have hd : (blanks.any fun n => zeros.any fun z => z ≤ n && n ≤ z + 9) = false := rfl
  have hs : (['+', '-', '.', 'e', 'E'].any isBlank) = false := by decide
  rw [isNumeralChar, Bool.or_eq_true] at h
  rcases h with h | h
  · refine Bool.eq_false_iff.2 fun hb => ?_
    exact List.any_eq_false.1 hd c.toNat (mem_blanks hb) h
  · exact Bool.eq_false_iff.2 (List.any_eq_false.1 hs c (List.contains_iff_mem.1 h))

theorem isBlank_of_isDigit {c : Char} (h : c.isDigit = true) : isBlank c = false :=
  isBlank_of_isNumeralChar (isNumeralChar_of_isDigit (isDigit_of_ascii h))

theorem trim_of_isDecimal {s : List Char} (h : isDecimal s = true) : trim s = s := by
  have hs : ∀ r : List Char, r ⊆ s → trimStart r = r := by
    intro r hr
    cases r with
    | nil => rfl
    | cons c r =>
      have hc := numeralChars_of_isDecimal h c (hr (by simp))
      simp [trimStart, isBlank_of_isNumeralChar hc]
  rw [trim, hs s (by simp), hs s.reverse (by simp), List.reverse_reverse]

/-- Without its plus sign a number is one still, and has no other sign that would show then. -/
theorem isDecimal_withoutPlus {s : List Char} (h : isDecimal s = true) :
    isDecimal (withoutPlus s) = true := by
  unfold withoutPlus
  split
  next r =>
    have hu : unsigned r = r := by
      cases r with
      | nil => rfl
      | cons c r =>
        have hc : ¬ (c = '+' ∨ c = '-') := by
          rintro (rfl | rfl) <;>
          · rw [isDecimal, unsigned, if_pos (.inl rfl)] at h
            simp [isDecimalTail, isDigit, zeros] at h
        rw [unsigned, if_neg hc]
    rw [isDecimal, unsigned, if_pos (.inl rfl)] at h
    rwa [isDecimal, hu]
  next => exact h

end Characters

end ColumnSql.Decimal
