import ColumnSql.Proofs.Expr.TextConstant

/-! Literals of texts as MySQL reads them by default, where a backslash takes the character after it
with it. Backslashes are written as they are, so a literal is its text only where a backslash stands
for itself. -/

namespace ColumnSql

namespace Lexical

open Text

/-- what a character after a backslash stands for, together with the backslash -/
def unescaped : Char → List Char
  | '0' => ['\x00']
  | 'b' => ['\x08']
  | 'n' => ['\n']
  | 'r' => ['\r']
  | 't' => ['\t']
  | 'Z' => ['\x1a']
  -- the wildcards of patterns: the backslash is left for the pattern
  | '%' => ['\\', '%']
  | '_' => ['\\', '_']
  | c => [c]

/-- a text up to its closing quote, where backslashes escape, and what follows -/
def readEscaped : List Char → Option (List Char × List Char)
  | [] => none
  | c :: s =>
    if c = '\\' then
      match s with
      | [] => none
      | d :: r => (readEscaped r).map fun x => (unescaped d ++ x.1, x.2)
    else if c = '\x27' then
      match s with
      | [] => some ([], [])
      | d :: r =>
        if d = '\x27' then (readEscaped r).map fun x => ('\x27' :: x.1, x.2)
        else some ([], d :: r)
    else (readEscaped s).map fun x => (c :: x.1, x.2)

def readEscapedText : List Char → Option (List Char × List Char)
  | '\x27' :: s => readEscaped s
  | _ => none

/-- After the backslash stands a character that it does not escape. -/
def IsKept (after : List Char) : Prop := after.head? = some '%' ∨ after.head? = some '_'

instance (after : List Char) : Decidable (IsKept after) :=
  inferInstanceAs (Decidable (after.head? = some '%' ∨ after.head? = some '_'))

def Kept (s : List Char) : Prop := ∀ before after, s = before ++ '\\' :: after → IsKept after

variable {c d : Char} {s r out rest : List Char}

theorem kept_nil : Kept [] := fun before after h => by simp at h

theorem kept_cons : Kept (c :: s) ↔ (c = '\\' → IsKept s) ∧ Kept s := by
  constructor
  · intro h
    refine ⟨?_, fun before after hs => h (c :: before) after (congrArg _ hs)⟩
    rintro rfl
    exact h [] s rfl
  · rintro ⟨hc, hs⟩ (_ | ⟨b, before⟩) after h
    · cases h
      exact hc rfl
    · cases h
      exact hs before after rfl

theorem readEscaped_backslash (d : Char) (r : List Char) : readEscaped ('\\' :: d :: r) =
    (readEscaped r).map fun x => (unescaped d ++ x.1, x.2) := by
  rw [readEscaped.eq_def]
  rfl

theorem readEscaped_quotes (r : List Char) : readEscaped ('\x27' :: '\x27' :: r) =
    (readEscaped r).map fun x => ('\x27' :: x.1, x.2) := by
  rw [readEscaped.eq_def]
  rfl

theorem readEscaped_of_ne (hb : c ≠ '\\') (hq : c ≠ '\x27') (s : List Char) :
    readEscaped (c :: s) = (readEscaped s).map fun x => (c :: x.1, x.2) := by
  rw [readEscaped.eq_def]
  simp only [if_neg hb, if_neg hq]

theorem count_unescaped_le (d : Char) : (unescaped d).count '\\' ≤ ['\\', d].count '\\' := by
  unfold unescaped
  split
  · decide
  · decide
  · decide
  · decide
  · decide
  · decide
  · decide
  · decide
  · exact List.count_le_count_cons

/-- A backslash that escapes is lost. -/
theorem count_unescaped_lt (hp : d ≠ '%') (hu : d ≠ '_') :
    (unescaped d).count '\\' < ['\\', d].count '\\' := by
  unfold unescaped
  split
  · decide
  · decide
  · decide
  · decide
  · decide
  · decide
  · exact absurd rfl hp
  · exact absurd rfl hu
  · rw [List.count_cons_self]
    exact Nat.lt_succ_self _

theorem readEscaped_quote (hd : d ≠ '\x27') (r : List Char) :
    readEscaped ('\x27' :: d :: r) = some ([], d :: r) := by
  rw [readEscaped.eq_def]
  exact if_neg hd

theorem exists_of_map_append (front : List Char) {x : Option (List Char × List Char)}
    (h : (x.map fun y => (front ++ y.1, y.2)) = some (out, rest)) :
    ∃ text, out = front ++ text ∧ x = some (text, rest) := by
  obtain ⟨⟨text, _⟩, hx, hy⟩ := Option.map_eq_some_iff.1 h
  obtain ⟨rfl, rfl⟩ := Prod.mk.inj hy
  exact ⟨text, rfl, hx⟩

theorem count_readEscaped_le (h : readEscaped s = some (out, rest)) :
    out.count '\\' + rest.count '\\' ≤ s.count '\\' := by
  induction s using readEscaped.induct generalizing out rest with
  | case1 | case2 => cases h
  | case3 d r ih =>
    rw [readEscaped_backslash] at h
    obtain ⟨text, rfl, hr⟩ := exists_of_map_append (unescaped d) h
    have hd := count_unescaped_le d
    have hr := ih hr
    rw [List.count_append, show '\\' :: d :: r = ['\\', d] ++ r from rfl, List.count_append]
    omega
  | case4 =>
    cases h
    decide
  | case5 r _ ih =>
    rw [readEscaped_quotes] at h
    obtain ⟨text, rfl, hr⟩ := exists_of_map_append ['\x27'] h
    simpa using ih hr
  | case6 d r hd =>
    rw [readEscaped_quote hd] at h
    cases h
    simp
  | case7 c r hb hq ih =>
    rw [readEscaped_of_ne hb hq] at h
    obtain ⟨text, rfl, hr⟩ := exists_of_map_append [c] h
    simpa [hb] using ih hr

theorem count_readEscaped_lt (hn : ¬ IsKept s) (h : readEscaped ('\\' :: s) = some (out, rest)) :
    out.count '\\' + rest.count '\\' < ('\\' :: s).count '\\' := by
  cases s with
  | nil => cases h
  | cons d r =>
    rw [readEscaped_backslash] at h
    obtain ⟨text, rfl, hr⟩ := exists_of_map_append (unescaped d) h
    have hd : (unescaped d).count '\\' < ['\\', d].count '\\' :=
      count_unescaped_lt (fun hd => hn (.inl (congrArg some hd)))
        fun hd => hn (.inr (congrArg some hd))
    have hr := count_readEscaped_le hr
    rw [List.count_append, show '\\' :: d :: r = ['\\', d] ++ r from rfl, List.count_append]
    omega

theorem readEscaped_of_isKept (h : IsKept s) :
    readEscaped ('\\' :: s) = (readEscaped s).map fun x => ('\\' :: x.1, x.2) := by
  cases s with
  | nil => exact absurd h (by decide)
  | cons d r =>
    rw [readEscaped_backslash]
    obtain hd | hd := h <;> obtain rfl := Option.some.inj hd
    · rw [readEscaped_of_ne (by decide) (by decide)]
      cases readEscaped r <;> rfl
    · rw [readEscaped_of_ne (by decide) (by decide)]
      cases readEscaped r <;> rfl

theorem count_double (s : List Char) : (double '\x27' s).count '\\' = s.count '\\' := by
  induction s with
  | nil => rfl
  | cons c s ih =>
    rw [double_cons, List.count_append, ih]
    split
    next hc => simp [hc]
    next => simp [List.count_cons, Nat.add_comm]

theorem isKept_double (s : List Char) : IsKept (double '\x27' s ++ ['\x27']) ↔ IsKept s := by
  cases s with
  | nil => decide
  | cons c s =>
    rw [IsKept, IsKept, double_cons]
    split <;> rfl

theorem map_cons_eq_some_iff {x : Option (List Char × List Char)} :
    (x.map fun y => (c :: y.1, y.2)) = some (c :: s, rest) ↔ x = some (s, rest) := by
  cases x <;> simp [Prod.ext_iff]

theorem readEscaped_double_iff (s : List Char) :
    readEscaped (double '\x27' s ++ ['\x27']) = some (s, []) ↔ Kept s := by
  induction s with
  | nil => exact iff_of_true rfl kept_nil
  | cons c s ih =>
    rw [kept_cons, double_cons, ← ih]
    by_cases hb : c = '\\'
    · subst hb
      change readEscaped ('\\' :: (double '\x27' s ++ ['\x27'])) = _ ↔ _
      by_cases hk : IsKept s
      · rw [readEscaped_of_isKept ((isKept_double s).2 hk), map_cons_eq_some_iff]
        exact (and_iff_right fun _ => hk).symm
      -- this backslash is lost, and the literal has no more of them than the text
      · refine iff_of_false (fun h => ?_) fun h => hk (h.1 rfl)
        have hlt := count_readEscaped_lt (mt (isKept_double s).1 hk) h
        simp [count_double] at hlt
    rw [and_iff_right fun h => absurd h hb]
    by_cases hq : c = '\x27'
    · subst hq
      change readEscaped ('\x27' :: '\x27' :: (double '\x27' s ++ ['\x27'])) = _ ↔ _
      rw [readEscaped_quotes, map_cons_eq_some_iff]
    · rw [if_neg hq]
      change readEscaped (c :: (double '\x27' s ++ ['\x27'])) = _ ↔ _
      rw [readEscaped_of_ne hb hq, map_cons_eq_some_iff]

instance (s : List Char) : Decidable (Kept s) := decidable_of_iff _ (readEscaped_double_iff s)

theorem readEscapedText_textLiteral_iff (s : String) :
    readEscapedText (textLiteral s).toList = some (s.toList, []) ↔ Kept s.toList := by
  rw [← readEscaped_double_iff, textLiteral, quoted, String.toList_ofList]
  rfl

end Lexical

open Lexical

namespace Builtin

/-- In MySQL the literal of a text is read as the text, to its end, exactly if each backslash in the
text stands before a `%` or a `_`: any other backslash escapes what comes after it, be it the
closing quote. -/
theorem literal_text_mySql {s : String} (hs : s ≠ "") {type : DataType}
    (h : type.isText = true ∨ type = .uniqueId ∨ type = .unknown) :
    readEscapedText (mySql.dialect.literal (.text s) type).toList = some (s.toList, []) ↔
      ∀ before after, s.toList = before ++ '\\' :: after → IsKept after := by
  have hl : mySql.dialect.literal (.text s) type = textLiteral s := mySql.literal_text hs h
  rw [hl]
  exact readEscapedText_textLiteral_iff s

theorem literal_text_mySql_percent :
    let s := "it's 100\\%"
    (s ≠ "" ∧ DataType.isText .varchar = true) ∧
      readEscapedText (mySql.dialect.literal (.text s) .varchar).toList = some (s.toList, []) := by
  intro s
  have hs : s ≠ "" := by decide
  have hk : Kept s.toList := by decide +kernel
  exact ⟨⟨hs, rfl⟩, (literal_text_mySql hs (.inl rfl)).2 hk⟩

/-- A backslash at the end takes the closing quote with it, and one before a quote lets the text out
of its literal. -/
theorem literal_text_mySql_backslash :
    let sql (s : String) := (mySql.dialect.literal (.text s) .varchar).toList
    readEscapedText (sql "\\") = none ∧
      readEscapedText (sql "\\' or 1=1 -- ") = some (['\x27'], " or 1=1 -- '".toList) := by
  intro sql
  have hsql {s : String} (hs : s ≠ "") : sql s = (textLiteral s).toList := by
    have hl : mySql.dialect.literal (.text s) .varchar = textLiteral s :=
      mySql.literal_text hs (.inl rfl)
    exact congrArg String.toList hl
  rw [hsql (by decide), hsql (by decide)]
  decide +kernel

end Builtin

end ColumnSql
