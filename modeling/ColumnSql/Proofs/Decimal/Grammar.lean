import ColumnSql.Proofs.Decimal.Numeral
import ColumnSql.Proofs.Text.Blank

/-! The grammar of written numbers: a sign or none, digits with a point or none, an exponent or
none. The tests of integers and of decimal numbers take the texts of such numbers and no others. A
text is that of one number at most, so it denotes one value, where a digit counts by its place among
the ten of its script. -/

namespace ColumnSql.Decimal

open Text

section Signs

inductive Sign
  | none
  | plus
  | minus
deriving DecidableEq

namespace Sign

def text : Sign → List Char
  | none => []
  | plus => ['+']
  | minus => ['-']

def factor : Sign → Int
  | none | plus => 1
  | minus => -1

def bare : Sign → Sign
  | none | plus => none
  | minus => minus

theorem bare_ne_plus (g : Sign) : g.bare ≠ plus := by cases g <;> decide

theorem factor_bare (g : Sign) : g.bare.factor = g.factor := by cases g <;> rfl

theorem text_injective {g g' : Sign} (h : g.text = g'.text) : g = g' := by
  cases g <;> cases g' <;> first | rfl | cases h

end Sign

variable {g g' : Sign} {s r r' : List Char}

theorem unsigned_signed (g : Sign) (hr : unsigned r = r) : unsigned (g.text ++ r) = r := by
  cases g with
  | none => exact hr
  | plus | minus => simp [Sign.text, unsigned]

theorem exists_sign (s : List Char) : ∃ g : Sign, s = g.text ++ unsigned s := by
  cases s with
  | nil => exact ⟨.none, rfl⟩
  | cons c s =>
    rw [unsigned]
    split
    next h =>
      rcases h with rfl | rfl
      · exact ⟨.plus, rfl⟩
      · exact ⟨.minus, rfl⟩
    next => exact ⟨.none, rfl⟩

theorem signed_inj (hr : unsigned r = r) (hr' : unsigned r' = r')
    (h : g.text ++ r = g'.text ++ r') : g = g' ∧ r = r' := by
  have he : r = r' := by rw [← unsigned_signed g hr, h, unsigned_signed g' hr']
  subst he
  exact ⟨Sign.text_injective (List.append_cancel_right h), rfl⟩

theorem withoutPlus_signed (g : Sign) (hr : unsigned r = r) :
    withoutPlus (g.text ++ r) = g.bare.text ++ r := by
  cases g with
  | plus | minus => rfl
  | none =>
    change withoutPlus r = r
    unfold withoutPlus
    split
    next t =>
      -- a plus sign would have been taken away
      have hl := congrArg List.length hr
      simp [unsigned] at hl
    next => rfl

theorem isInteger_iff :
    isInteger s = true ↔ ∃ (g : Sign) (d : List Char), Digits d ∧ d ≠ [] ∧ s = g.text ++ d := by
  constructor
  · intro h
    obtain ⟨g, hg⟩ := exists_sign s
    rw [isInteger, Bool.and_eq_true, List.all_eq_true] at h
    exact ⟨g, unsigned s, h.2, by simpa using h.1, hg⟩
  · rintro ⟨g, d, hd, hn, rfl⟩
    rw [isInteger, unsigned_signed g (hd.unsigned_eq hn)]
    simp [hn, List.all_eq_true.2 hd]

end Signs

section Exponents

@[ext]
structure Exponent where
  mark : Char
  sign : Sign
  digits : List Char
  mark_eq : mark = 'e' ∨ mark = 'E'
  digits_all : Digits digits
  digits_ne_nil : digits ≠ []

def Exponent.text (e : Exponent) : List Char := e.mark :: (e.sign.text ++ e.digits)

theorem Exponent.text_injective {e e' : Exponent} (h : e.text = e'.text) : e = e' := by
  obtain ⟨hm, ht⟩ := List.cons.inj h
  obtain ⟨hs, hd⟩ := signed_inj (e.digits_all.unsigned_eq e.digits_ne_nil)
    (e'.digits_all.unsigned_eq e'.digits_ne_nil) ht
  exact Exponent.ext hm hs hd

def powerText : Option Exponent → List Char
  | none => []
  | some e => e.text

theorem powerText_injective {e e' : Option Exponent} (h : powerText e = powerText e') : e = e' := by
  cases e with
  | none =>
    cases e' with
    | none => rfl
    | some => cases h
  | some e =>
    cases e' with
    | none => cases h
    | some e' => rw [Exponent.text_injective h]

theorem isExponent_iff {s : List Char} :
    isExponent s = true ↔ ∃ e : Option Exponent, s = powerText e := by
  constructor
  · intro h
    cases s with
    | nil => exact ⟨none, rfl⟩
    | cons c s =>
      rw [isExponent, Bool.and_eq_true] at h
      obtain ⟨g, d, hd, hn, rfl⟩ := isInteger_iff.1 h.2
      exact ⟨some ⟨c, g, d, by simpa using h.1, hd, hn⟩, rfl⟩
  · rintro ⟨e, rfl⟩
    cases e with
    | none => rfl
    | some e =>
      have hi := isInteger_iff.2 ⟨e.sign, e.digits, e.digits_all, e.digits_ne_nil, rfl⟩
      simpa [powerText, Exponent.text, isExponent, hi] using e.mark_eq

theorem head_powerText (e : Option Exponent) :
    ∀ c ∈ (powerText e).head?, c = 'e' ∨ c = 'E' := by
  cases e with
  | none => nofun
  | some e =>
    rintro _ ⟨⟩
    exact e.mark_eq

theorem not_isDigit_head_powerText (e : Option Exponent) :
    ∀ c ∈ (powerText e).head?, isDigit c = false := by
  intro c hc
  rcases head_powerText e c hc with rfl | rfl <;> decide

theorem point_not_mem_head_powerText (e : Option Exponent) : '.' ∉ (powerText e).head? := by
  intro h
  rcases head_powerText e '.' h with h | h <;> cases h

end Exponents

@[ext]
structure Numeral where
  sign : Sign
  whole : List Char
  fraction : Option (List Char)
  exponent : Option Exponent
  whole_all : Digits whole
  fraction_all : ∀ f ∈ fraction, Digits f
  ne_nil : whole ≠ [] ∨ ∃ f ∈ fraction, f ≠ []

namespace Numeral

def pointText : Option (List Char) → List Char
  | none => []
  | some f => '.' :: f

def tail (n : Numeral) : List Char := pointText n.fraction ++ powerText n.exponent

def text (n : Numeral) : List Char := n.sign.text ++ (n.whole ++ n.tail)

def bare (n : Numeral) : Numeral := { n with sign := n.sign.bare }

section Reading

variable (n : Numeral)

theorem not_isDigit_head_tail : ∀ c ∈ n.tail.head?, isDigit c = false := by
  unfold tail
  cases n.fraction with
  | none => exact not_isDigit_head_powerText n.exponent
  | some f =>
    rintro _ ⟨⟩
    decide

theorem takeWhile_whole :
    (n.whole ++ n.tail).takeWhile isDigit = n.whole ∧
      (n.whole ++ n.tail).dropWhile isDigit = n.tail :=
  n.whole_all.takeWhile_append n.not_isDigit_head_tail

theorem unsigned_whole : unsigned (n.whole ++ n.tail) = n.whole ++ n.tail := by
  by_cases hw : n.whole = []
  · obtain ⟨f, hf, -⟩ := n.ne_nil.resolve_left (· hw)
    rw [hw, tail, Option.mem_def.1 hf]
    rfl
  · exact n.whole_all.unsigned_append hw n.tail

theorem isDecimalTail_tail : isDecimalTail n.whole n.tail = true := by
  have he : isExponent (powerText n.exponent) = true := isExponent_iff.2 ⟨_, rfl⟩
  unfold tail
  cases hf : n.fraction with
  | none =>
    have hw : n.whole ≠ [] := by
      rcases n.ne_nil with h | ⟨f, h, -⟩
      · exact h
      · rw [hf] at h
        cases h
    change isDecimalTail n.whole (powerText n.exponent) = true
    rw [isDecimalTail_exponent hw (point_not_mem_head_powerText _), he]
  | some f =>
    obtain ⟨ht, hd⟩ := (n.fraction_all f hf).takeWhile_append
      (not_isDigit_head_powerText n.exponent)
    have hn : n.whole ≠ [] ∨ f ≠ [] := by
      refine n.ne_nil.imp_right ?_
      rintro ⟨f', h, hn⟩
      rw [hf] at h
      cases h
      exact hn
    change isDecimalTail n.whole ('.' :: (f ++ powerText n.exponent)) = true
    rw [isDecimalTail, ht, hd, he]
    simpa using hn

theorem isDecimal_text : isDecimal n.text = true := by
  obtain ⟨ht, hd⟩ := n.takeWhile_whole
  rw [isDecimal, text, unsigned_signed n.sign n.unsigned_whole, ht, hd, n.isDecimalTail_tail]

theorem withoutPlus_text : withoutPlus n.text = n.bare.text :=
  withoutPlus_signed n.sign n.unsigned_whole

end Reading

theorem exists_tail {whole s : List Char} (h : isDecimalTail whole s = true) :
    ∃ (f : Option (List Char)) (e : Option Exponent), (∀ d ∈ f, Digits d) ∧
      (whole ≠ [] ∨ ∃ d ∈ f, d ≠ []) ∧ s = pointText f ++ powerText e := by
  unfold isDecimalTail at h
  split at h
  next r =>
    rw [Bool.and_eq_true] at h
    obtain ⟨e, he⟩ := isExponent_iff.1 h.2
    refine ⟨some (r.takeWhile isDigit), e, ?_, ?_, ?_⟩
    · rintro _ ⟨⟩
      exact digits_takeWhile r
    · simpa using h.1
    · rw [← he]
      simp [pointText]
  next =>
    rw [Bool.and_eq_true] at h
    obtain ⟨e, he⟩ := isExponent_iff.1 h.2
    exact ⟨none, e, nofun, .inl (by simpa using h.1), by simpa [pointText] using he⟩

/-- The texts of numbers, as they are tested for. -/
theorem isDecimal_iff {s : List Char} : isDecimal s = true ↔ ∃ n : Numeral, n.text = s := by
  constructor
  · intro h
    obtain ⟨g, hg⟩ := exists_sign s
    obtain ⟨f, e, hf, hn, ht⟩ := exists_tail h
    refine ⟨⟨g, _, f, e, digits_takeWhile _, hf, hn⟩, ?_⟩
    rw [text, tail, ← ht, List.takeWhile_append_dropWhile, ← hg]
  · rintro ⟨n, rfl⟩
    exact n.isDecimal_text

theorem isInteger_iff_exists {s : List Char} :
    isInteger s = true ↔ ∃ n : Numeral, n.fraction = none ∧ n.exponent = none ∧ n.text = s := by
  rw [isInteger_iff]
  constructor
  · rintro ⟨g, d, hd, hn, rfl⟩
    refine ⟨⟨g, d, none, none, hd, nofun, .inl hn⟩, rfl, rfl, ?_⟩
    simp [text, tail, pointText, powerText]
  · rintro ⟨⟨g, d, f, e, hd, -, hn⟩, rfl, rfl, rfl⟩
    refine ⟨g, d, hd, ?_, by simp [text, tail, pointText, powerText]⟩
    simpa using hn

theorem tail_inj {f f' : Option (List Char)} {e e' : Option Exponent} (hf : ∀ d ∈ f, Digits d)
    (hf' : ∀ d ∈ f', Digits d) (h : pointText f ++ powerText e = pointText f' ++ powerText e') :
    f = f' ∧ e = e' := by
  have hn (e : Option Exponent) (s : List Char) : powerText e ≠ '.' :: s := by
    intro he
    apply point_not_mem_head_powerText e
    rw [he]
    rfl
  cases f with
  | none =>
    cases f' with
    | none => exact ⟨rfl, powerText_injective h⟩
    | some d' => exact absurd h (hn e _)
  | some d =>
    cases f' with
    | none => exact absurd h.symm (hn e' _)
    | some d' =>
      have h : d ++ powerText e = d' ++ powerText e' := (List.cons.inj h).2
      have hd := (hf d rfl).takeWhile_append (not_isDigit_head_powerText e)
      have hd' := (hf' d' rfl).takeWhile_append (not_isDigit_head_powerText e')
      rw [h] at hd
      have he : e = e' := powerText_injective (hd.2.symm.trans hd'.2)
      exact ⟨congrArg some (hd.1.symm.trans hd'.1), he⟩

theorem text_injective {n m : Numeral} (h : n.text = m.text) : n = m := by
  obtain ⟨hs, hb⟩ := signed_inj n.unsigned_whole m.unsigned_whole h
  have hw : n.whole = m.whole := by rw [← n.takeWhile_whole.1, hb, m.takeWhile_whole.1]
  have ht : n.tail = m.tail := by rw [← n.takeWhile_whole.2, hb, m.takeWhile_whole.2]
  obtain ⟨hf, he⟩ := tail_inj n.fraction_all m.fraction_all ht
  exact Numeral.ext hs hw hf he

end Numeral

section Values

/-- the place of a digit among the ten of its script -/
def digitValue (c : Char) : Nat :=
  ((zeros.find? fun z => z ≤ c.toNat && c.toNat ≤ z + 9).map (c.toNat - ·)).getD 0

def digitsNumber (s : List Char) : Nat := s.foldl (fun n c => 10 * n + digitValue c) 0

theorem digitValue_ascii {c : Char} (h : c.isDigit = true) : digitValue c = c.toNat - 48 := by
  simp only [Char.isDigit, Bool.and_eq_true, decide_eq_true_eq, UInt32.le_iff_toNat_le] at h
  have hz : (decide (0x30 ≤ c.toNat) && decide (c.toNat ≤ 0x30 + 9)) = true := by
    simpa using h
  simp [digitValue, zeros, hz]

theorem digitsNumber_ascii {s : List Char} (h : ∀ c ∈ s, c.isDigit = true) :
    digitsNumber s = digitsValue s := by
  have hf (l : List Char) (hl : ∀ c ∈ l, c.isDigit = true) (n : Nat) :
      l.foldl (fun n c => 10 * n + digitValue c) n =
        l.foldl (fun n c => 10 * n + (c.toNat - 48)) n := by
    induction l generalizing n with
    | nil => rfl
    | cons c l ih =>
      rw [List.forall_mem_cons] at hl
      rw [List.foldl_cons, List.foldl_cons, digitValue_ascii hl.1, ih hl.2]
  exact hf s h 0

def Exponent.value (e : Exponent) : Int := e.sign.factor * digitsNumber e.digits

namespace Numeral

def value (n : Numeral) : Rat :=
  n.sign.factor * digitsNumber (n.whole ++ n.fraction.getD []) *
    (10 : Rat) ^ ((n.exponent.map Exponent.value).getD 0 - (n.fraction.getD []).length)

def digits (n : Numeral) : List Char :=
  n.whole ++ n.fraction.getD [] ++ (n.exponent.map Exponent.digits).getD []

def IsAscii (n : Numeral) : Prop := ∀ c ∈ n.digits, c.isDigit = true

theorem value_bare (n : Numeral) : n.bare.value = n.value := by
  rw [value, bare, Sign.factor_bare, value]

theorem exists_intText (k : Int) : ∃ n : Numeral, n.text = intText k ∧ n.value = k := by
  have hd : ∀ c ∈ natText k.natAbs, c.isDigit = true :=
    fun c hc => Nat.isDigit_of_mem_toDigits (by decide) (by decide) hc
  have hv : digitsNumber (natText k.natAbs) = k.natAbs := by
    rw [digitsNumber_ascii hd, digitsValue_natText]
  refine ⟨⟨if k < 0 then .minus else .none, natText k.natAbs, none, none, digits_natText _, nofun,
    .inl (natText_ne_nil _)⟩, ?_, ?_⟩
  · by_cases hk : k < 0 <;> simp [text, tail, pointText, powerText, intText, Sign.text, hk]
  · have hf : (if k < 0 then Sign.minus else .none).factor * (k.natAbs : Int) = k := by
      split
      · simp only [Sign.factor]
        omega
      · simp only [Sign.factor]
        omega
    simp only [value, Option.getD_none, List.append_nil, hv, Option.map_none, List.length_nil]
    rw [Int.natCast_zero, Int.sub_zero, Rat.zpow_zero, Rat.mul_one, ← Rat.intCast_natCast,
      ← Rat.intCast_mul, hf]

end Numeral

end Values

end ColumnSql.Decimal
