import ColumnSql.Text.Blank

/-! White space at the ends of a text. A text is what is left of it without the blanks at its ends,
between blanks, and a text that has none at its ends is left as it is. -/

namespace ColumnSql.Text

def Blanks (s : List Char) : Prop := ∀ c ∈ s, isBlank c = true

structure IsTrim (s : List Char) : Prop where
  head : ∀ c ∈ s.head?, isBlank c = false
  last : ∀ c ∈ s.getLast?, isBlank c = false

theorem trimStart_of_head {s : List Char} (h : ∀ c ∈ s.head?, isBlank c = false) :
    trimStart s = s := by
  cases s with
  | nil => rfl
  | cons c s => simp [trimStart, h c rfl]

theorem head_trimStart (s : List Char) : ∀ c ∈ (trimStart s).head?, isBlank c = false := by
  intro c hc
  have h := List.head?_dropWhile_not isBlank s
  rw [trimStart] at hc
  rw [Option.mem_def.1 hc] at h
  simpa using h

theorem trimStart_append {l : List Char} (hl : Blanks l) (s : List Char) :
    trimStart (l ++ s) = trimStart s :=
  List.dropWhile_append_of_pos hl

theorem exists_trimStart (s : List Char) : ∃ l, Blanks l ∧ s = l ++ trimStart s :=
  ⟨s.takeWhile isBlank, List.all_eq_true.1 List.all_takeWhile, List.takeWhile_append_dropWhile.symm⟩

namespace IsTrim

variable {s : List Char}

theorem reverse (h : IsTrim s) : IsTrim s.reverse :=
  ⟨by rw [List.head?_reverse]; exact h.last, by rw [List.getLast?_reverse]; exact h.head⟩

theorem ofForall (h : ∀ c ∈ s, isBlank c = false) : IsTrim s :=
  ⟨fun c hc => h c (List.mem_of_mem_head? hc), fun c hc => h c (List.mem_of_getLast? hc)⟩

theorem append {r : List Char} (hs : ∀ c ∈ s, isBlank c = false) (hr : ∀ c ∈ r, isBlank c = false)
    (hs' : s ≠ []) (hr' : r ≠ []) (m : List Char) : IsTrim (s ++ m ++ r) := by
  obtain ⟨x, t, rfl⟩ := List.exists_cons_of_ne_nil hs'
  obtain ⟨u, y, rfl⟩ := (List.eq_nil_or_concat r).resolve_left hr'
  refine ⟨?_, ?_⟩
  · rintro _ ⟨⟩
    exact hs x (List.mem_cons_self ..)
  · rw [List.concat_eq_append, ← List.append_assoc, List.getLast?_concat]
    rintro _ ⟨⟩
    exact hr y (by simp)

end IsTrim

theorem trim_append {l s r : List Char} (hl : Blanks l) (hs : IsTrim s) (hr : Blanks r) :
    trim (l ++ s ++ r) = s := by
  rw [trim, List.append_assoc, trimStart_append hl]
  cases s with
  | nil =>
    have h := trimStart_append hr []
    rw [List.append_nil] at h
    rw [List.nil_append, h]
    rfl
  | cons c s =>
    have hc := trimStart_of_head (s := c :: s ++ r) hs.head
    have hr : Blanks r.reverse := fun c hc => hr c (List.mem_reverse.1 hc)
    rw [hc, List.reverse_append, trimStart_append hr, trimStart_of_head hs.reverse.head,
      List.reverse_reverse]

theorem IsTrim.trim_eq {s : List Char} (h : IsTrim s) : trim s = s := by
  simpa using trim_append (l := []) (r := []) (by simp [Blanks]) h (by simp [Blanks])

theorem exists_trim (s : List Char) :
    ∃ l r, Blanks l ∧ Blanks r ∧ s = l ++ trim s ++ r ∧ IsTrim (trim s) := by
  obtain ⟨l, hl, hs⟩ := exists_trimStart s
  obtain ⟨r, hr, ht⟩ := exists_trimStart (trimStart s).reverse
  have he : trimStart s = trim s ++ r.reverse := by
    rw [trim, ← List.reverse_append, ← ht, List.reverse_reverse]
  refine ⟨l, r.reverse, hl, fun c hc => hr c (List.mem_reverse.1 hc), ?_, ?_, ?_⟩
  · rw [List.append_assoc, ← he, ← hs]
  · -- what is left begins as the text without the blanks before it does
    intro c hc
    refine head_trimStart s c ?_
    rw [he, List.head?_append, Option.mem_def.1 hc]
    rfl
  · rw [trim, List.getLast?_reverse]
    exact head_trimStart _

end ColumnSql.Text
