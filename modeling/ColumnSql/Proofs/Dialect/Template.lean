import ColumnSql.Template
import ColumnSql.Text.Quoted
import Mathlib.Data.List.TakeWhile

/-! Placeholders in templates. No placeholder goes across a character that placeholders do not have,
so the pieces of a template are those before and after such a character. What is found as a
placeholder is what is spelled as one. A text without placeholders is its own substitution. -/

namespace ColumnSql

theorem Text.mem_double {q c : Char} {s : List Char} : c ∈ double q s ↔ c ∈ s := by
  rw [double, List.mem_flatMap]
  constructor
  · rintro ⟨x, hx, hc⟩
    split at hc <;> simp_all
  · exact fun hc => ⟨c, hc, by split <;> simp⟩

namespace Template

open Text

/-- The character is in no placeholder. -/
structure IsBreak (c : Char) : Prop where
  digit : isDigit c = false
  name : isNameChar c = false
  brace : c ≠ '\x7b' ∧ c ≠ '\x7d'
  colon : c ≠ ':'

theorem isBreak_quote : IsBreak '\x27' := ⟨by decide +kernel, by decide, by decide, by decide⟩

theorem isBreak_mark : IsBreak '?' := ⟨by decide +kernel, by decide, by decide, by decide⟩

/-- No placeholder goes on over the character, though one may begin with it. -/
structure IsEdge (c : Char) : Prop where
  digit : isDigit c = false
  name : isNameChar c = false
  brace : c ≠ '\x7d'
  colon : c ≠ ':'

theorem IsBreak.isEdge {c : Char} (h : IsBreak c) : IsEdge c :=
  ⟨h.digit, h.name, h.brace.2, h.colon⟩

theorem isEdge_brace : IsEdge '\x7b' := ⟨by decide +kernel, by decide, by decide, by decide⟩

section

variable {c : Char} {p : Char → Bool}

theorem takeWhile_append_cons (h : p c = false) (s r : List Char) :
    (s ++ c :: r).takeWhile p = s.takeWhile p := by
  induction s with
  | nil => simp [h]
  | cons x s ih => simp [List.takeWhile_cons, ih]

theorem dropWhile_append_cons (h : p c = false) (s r : List Char) :
    (s ++ c :: r).dropWhile p = s.dropWhile p ++ c :: r := by
  induction s with
  | nil => simp [h]
  | cons x s ih =>
    rw [List.cons_append, List.dropWhile_cons, List.dropWhile_cons, ih]
    split <;> rfl

end

section

variable {c : Char} (h : IsEdge c)
include h

theorem hint?_append_cons (s r : List Char) :
    hint? (s ++ c :: r) = (hint? s).map fun x => (x.1, x.2 ++ c :: r) := by
  match s with
  | [] => simp [hint?.eq_def, h.brace, h.colon]
  | x :: s =>
    by_cases hb : x = '\x7d'
    · subst hb
      rfl
    by_cases hc : x = ':'
    · subst hc
      simp only [List.cons_append, hint?, takeWhile_append_cons h.name,
        dropWhile_append_cons h.name]
      cases s.takeWhile isNameChar with
      | nil => rfl
      | cons y name =>
        cases s.dropWhile isNameChar with
        | nil => simp [h.brace]
        | cons z t =>
          by_cases hz : z = '\x7d' <;> simp [hz]
    · simp [hint?.eq_def, hb, hc]

theorem inside?_append_cons (s r : List Char) :
    inside? (s ++ c :: r) = (inside? s).map fun x => (x.1, x.2 ++ c :: r) := by
  rw [inside?, inside?, takeWhile_append_cons h.digit, dropWhile_append_cons h.digit]
  cases s.takeWhile isDigit with
  | nil => rfl
  | cons d ds =>
    simp only [hint?_append_cons h]
    cases hint? (s.dropWhile isDigit) <;> rfl

end

theorem piecesFrom_eq (n : Nat) (s : List Char) : piecesFrom n s = pieces (s.drop n) := by
  induction n generalizing s with
  | zero => rfl
  | succ n ih =>
    cases s with
    | nil => rfl
    | cons c s => exact ih s

theorem pieces_brace (s : List Char) :
    pieces ('\x7b' :: s) =
      match inside? s with
      | some (p, rest) => .parameter p :: pieces (s.drop (s.length - rest.length))
      | none => .verbatim '\x7b' :: pieces s := by
  rw [pieces, piecesFrom, if_pos rfl]
  cases inside? s with
  | none => rfl
  | some x => simp [piecesFrom_eq]

/-- A text has the pieces of its parts, if no placeholder goes on from one to the other. -/
theorem pieces_append_edge {c : Char} (h : IsEdge c) (r : List Char) :
    ∀ s, pieces (s ++ c :: r) = pieces s ++ pieces (c :: r)
  | [] => rfl
  | x :: s => by
    by_cases hx : x = '\x7b'
    · subst hx
      rw [List.cons_append, pieces_brace, pieces_brace, inside?_append_cons h]
      cases inside? s with
      | none =>
        simp [pieces_append_edge h r s]
      | some y =>
        simp only [Option.map_some, List.length_append, List.cons_append]
        rw [Nat.add_sub_add_right, List.drop_append_of_le_length (Nat.sub_le ..),
          pieces_append_edge h r]
    · rw [List.cons_append, pieces_cons_of_ne hx, pieces_cons_of_ne hx, pieces_append_edge h r s]
      rfl
termination_by s => s.length

theorem pieces_append_cons {c : Char} (h : IsBreak c) (r s : List Char) :
    pieces (s ++ c :: r) = pieces s ++ .verbatim c :: pieces r := by
  rw [pieces_append_edge h.isEdge, pieces_cons_of_ne h.brace.1]

def IsTypeName (name : Option (List Char)) : Prop :=
  ∀ s ∈ name, s ≠ [] ∧ ∀ c ∈ s, isNameChar c = true

def ending : Option (List Char) → List Char
  | none => ['\x7d']
  | some s => ':' :: (s ++ ['\x7d'])

structure Spelling where
  /-- digits of any script -/
  digits : List Char
  name : Option (List Char)
  isNumber : digits ≠ [] ∧ ∀ c ∈ digits, isDigit c = true
  isTypeName : IsTypeName name

namespace Spelling

def inside (w : Spelling) : List Char := w.digits ++ ending w.name

def text (w : Spelling) : List Char := '\x7b' :: w.inside

def placeholder (w : Spelling) : Placeholder :=
  ⟨index? w.digits, w.name.bind fun s => DataType.ofName? (String.ofList s)⟩

end Spelling

section

variable {d r s : List Char} {name : Option (List Char)}

theorem takeWhile_digits (hd : ∀ c ∈ d, isDigit c = true) (name : Option (List Char))
    (r : List Char) :
    (d ++ (ending name ++ r)).takeWhile isDigit = d ∧
      (d ++ (ending name ++ r)).dropWhile isDigit = ending name ++ r := by
  have hc : isDigit ':' = false := by decide +kernel
  have hb : isDigit '\x7d' = false := by decide +kernel
  rw [List.takeWhile_append_of_pos hd, List.dropWhile_append_of_pos hd]
  cases name <;> simp [ending, hc, hb]

theorem takeWhile_name (hs : ∀ c ∈ s, isNameChar c = true) (r : List Char) :
    (s ++ '\x7d' :: r).takeWhile isNameChar = s ∧
      (s ++ '\x7d' :: r).dropWhile isNameChar = '\x7d' :: r := by
  have hb : isNameChar '\x7d' = false := by decide
  rw [List.takeWhile_append_of_pos hs, List.dropWhile_append_of_pos hs]
  simp [hb]

theorem hint?_ending (h : IsTypeName name) (r : List Char) :
    hint? (ending name ++ r) = some (name.bind fun s => DataType.ofName? (String.ofList s), r) := by
  cases name with
  | none => simp only [ending, List.singleton_append, hint?, Option.bind_none]
  | some s =>
    obtain ⟨hn, hs⟩ := h s rfl
    obtain ⟨ht, hd⟩ := takeWhile_name hs r
    obtain ⟨c, s, rfl⟩ := List.exists_cons_of_ne_nil hn
    have he : ending (some (c :: s)) ++ r = ':' :: (c :: s ++ '\x7d' :: r) := by simp [ending]
    simp only [he, hint?, ht, hd, Option.bind_some]

theorem exists_ending {hint : Option DataType} (h : hint? s = some (hint, r)) :
    ∃ name, IsTypeName name ∧ s = ending name ++ r ∧
      (name.bind fun s => DataType.ofName? (String.ofList s)) = hint := by
  unfold hint? at h
  split at h
  next s =>
    simp only [Option.some.injEq, Prod.mk.injEq] at h
    obtain ⟨rfl, rfl⟩ := h
    exact ⟨none, nofun, rfl, rfl⟩
  next s =>
    split at h
    next => exact absurd h (by simp)
    next _ _ rest hd hn =>
      simp only [Option.some.injEq, Prod.mk.injEq] at h
      obtain ⟨rfl, rfl⟩ := h
      refine ⟨some (s.takeWhile isNameChar), ?_, ?_, Option.bind_some ..⟩
      · intro x hx
        obtain rfl := Option.mem_some.1 hx
        exact ⟨hn, fun c hc => List.mem_takeWhile_imp hc⟩
      · simpa [ending, hd] using
          (List.takeWhile_append_dropWhile (p := isNameChar) (l := s)).symm
    next => exact absurd h (by simp)
  next => exact absurd h (by simp)

end

section

variable {r s : List Char}

/-- After an opening brace there is a placeholder exactly if one is spelled there. -/
theorem inside?_eq_some_iff {p : Placeholder} :
    inside? s = some (p, r) ↔ ∃ w : Spelling, s = w.inside ++ r ∧ w.placeholder = p := by
  constructor
  · intro h
    unfold inside? at h
    split at h
    next => exact absurd h (by simp)
    next hn =>
      obtain ⟨⟨hint, rest⟩, hh, he⟩ := Option.map_eq_some_iff.1 h
      simp only [Prod.mk.injEq] at he
      obtain ⟨rfl, rfl⟩ := he
      obtain ⟨name, ht, hs, hi⟩ := exists_ending hh
      have hd : ∀ c ∈ s.takeWhile isDigit, isDigit c = true := fun c hc => List.mem_takeWhile_imp hc
      refine ⟨⟨s.takeWhile isDigit, name, ⟨hn, hd⟩, ht⟩, ?_, ?_⟩
      · rw [Spelling.inside, List.append_assoc, ← hs, List.takeWhile_append_dropWhile]
      · rw [Spelling.placeholder, hi]
  · rintro ⟨w, rfl, rfl⟩
    obtain ⟨hn, hd⟩ := w.isNumber
    obtain ⟨ht, he⟩ := takeWhile_digits hd w.name r
    obtain ⟨x, y, hw⟩ := List.exists_cons_of_ne_nil hn
    rw [Spelling.inside, List.append_assoc, inside?, ht, he, hint?_ending w.isTypeName,
      Spelling.placeholder, hw]
    rfl

theorem pieces_text_append (w : Spelling) (s : List Char) :
    pieces (w.text ++ s) = .parameter w.placeholder :: pieces s := by
  have h : inside? (w.inside ++ s) = some (w.placeholder, s) :=
    inside?_eq_some_iff.2 ⟨w, rfl, rfl⟩
  rw [Spelling.text, List.cons_append, pieces_brace, h]
  simp

theorem pieces_append_text (a : List Char) (w : Spelling) (b : List Char) :
    pieces (a ++ (w.text ++ b)) = pieces a ++ .parameter w.placeholder :: pieces b := by
  rw [← pieces_text_append, Spelling.text, List.cons_append, pieces_append_edge isEdge_brace]

end

theorem pieces_place (s : List Char) :
    pieces ('\x7b' :: '0' :: '\x7d' :: s) = .parameter ⟨some 0, none⟩ :: pieces s := by
  have hd : ∀ c ∈ ['0'], isDigit c = true := List.forall_mem_singleton.2 (by decide +kernel)
  have hi : index? ['0'] = some 0 := by decide
  have h := pieces_text_append ⟨['0'], none, ⟨List.cons_ne_nil _ _, hd⟩, nofun⟩ s
  rwa [Spelling.placeholder, hi] at h

def HasPlaceholder (s : List Char) : Prop := ∃ p, .parameter p ∈ pieces s

theorem hasPlaceholder_append_cons {c : Char} (h : IsBreak c) (s r : List Char) :
    HasPlaceholder (s ++ c :: r) ↔ HasPlaceholder s ∨ HasPlaceholder r := by
  simp [HasPlaceholder, pieces_append_cons h, exists_or]

theorem hasPlaceholder_append_place (s r : List Char) :
    HasPlaceholder (s ++ '\x7b' :: '0' :: '\x7d' :: r) :=
  ⟨⟨some 0, none⟩, by simp [pieces_append_edge isEdge_brace, pieces_place]⟩

theorem pieces_of_not_mem {s : List Char} (h : '\x7b' ∉ s) : pieces s = s.map .verbatim := by
  induction s with
  | nil => rfl
  | cons c s ih =>
    rw [List.mem_cons, not_or] at h
    rw [pieces_cons_of_ne (Ne.symm h.1), ih h.2]
    rfl

theorem not_hasPlaceholder_of_not_mem {s : List Char} (h : '\x7b' ∉ s) : ¬ HasPlaceholder s := by
  simp [HasPlaceholder, pieces_of_not_mem h]

theorem hasPlaceholder_cons {c : Char} (h : IsBreak c) (s : List Char) :
    HasPlaceholder (c :: s) ↔ HasPlaceholder s := by
  simp [HasPlaceholder, pieces_cons_of_ne h.brace.1]

/-- Quotes written twice make no placeholder and break none. -/
theorem hasPlaceholder_double {q : Char} (h : IsBreak q) (s : List Char) :
    HasPlaceholder (double q s) ↔ HasPlaceholder s := by
  by_cases hq : q ∈ s
  · obtain ⟨a, b, he, ha⟩ := List.eq_append_cons_of_mem hq
    have hd : double q s = a ++ q :: q :: double q b := by
      rw [he, double, List.flatMap_append, List.flatMap_cons, if_pos rfl]
      exact congrArg (· ++ _) (double_of_not_mem ha)
    have hb : b.length < s.length := by
      rw [he, List.length_append, List.length_cons]
      omega
    rw [hd, he, hasPlaceholder_append_cons h, hasPlaceholder_append_cons h, hasPlaceholder_cons h,
      hasPlaceholder_double h b]
  · rw [double_of_not_mem hq]
termination_by s.length

theorem pieces_cons (c : Char) (s : List Char) :
    pieces (c :: s) = .verbatim c :: pieces s ∨
      c = '\x7b' ∧ ∃ p r, pieces (c :: s) = .parameter p :: r := by
  by_cases hb : c = '\x7b'
  · subst hb
    rw [pieces_brace]
    split
    · exact .inr ⟨rfl, _, _, rfl⟩
    · exact .inl rfl
  · exact .inl (pieces_cons_of_ne hb s)

theorem pieces_cons_of_not_hasPlaceholder {c : Char} {s : List Char}
    (h : ¬ HasPlaceholder (c :: s)) :
    pieces (c :: s) = .verbatim c :: pieces s ∧ ¬ HasPlaceholder s := by
  obtain hc | ⟨_, p, r, hc⟩ := pieces_cons c s
  · exact ⟨hc, fun ⟨p, hp⟩ => h ⟨p, hc ▸ List.mem_cons_of_mem _ hp⟩⟩
  · exact absurd ⟨p, hc ▸ List.mem_cons_self ..⟩ h

theorem pieces_of_not_hasPlaceholder {s : List Char} (h : ¬ HasPlaceholder s) :
    pieces s = s.map .verbatim := by
  induction s with
  | nil => rfl
  | cons c s ih =>
    obtain ⟨hc, hs⟩ := pieces_cons_of_not_hasPlaceholder h
    rw [hc, ih hs, List.map_cons]

section

variable {arg : Placeholder → String}

theorem substitute_append_cons {c : Char} (h : IsBreak c) (s r : List Char) :
    substitute arg (s ++ c :: r) = substitute arg s ++ String.ofList [c] ++ substitute arg r := by
  apply String.toList_injective
  simp [toList_substitute, pieces_append_cons h, Piece.text]

theorem substitute_of_not_hasPlaceholder {s : List Char} (h : ¬ HasPlaceholder s) :
    substitute arg s = String.ofList s := by
  apply String.toList_injective
  rw [toList_substitute, pieces_of_not_hasPlaceholder h, List.flatMap_map, String.toList_ofList]
  exact List.flatMap_singleton' s

theorem substitute_append_text (a : List Char) (w : Spelling) (b : List Char) :
    substitute arg (a ++ (w.text ++ b)) =
      substitute arg a ++ arg w.placeholder ++ substitute arg b := by
  apply String.toList_injective
  simp [toList_substitute, pieces_append_text, Piece.text]

theorem substitute_append_place (s r : List Char) :
    substitute arg (s ++ '\x7b' :: '0' :: '\x7d' :: r) =
      substitute arg s ++ arg ⟨some 0, none⟩ ++ substitute arg r := by
  apply String.toList_injective
  simp [toList_substitute, pieces_append_edge isEdge_brace, pieces_place, Piece.text]

/-- A text that is as it was when its placeholders are filled with other texts, whatever follows
there, has no placeholder. -/
theorem not_hasPlaceholder_of_append (ha : ∀ p, ∃ c r, (arg p).toList = c :: r ∧ c ≠ '\x7b')
    {s x y : List Char} (h : s ++ x = (substitute arg s).toList ++ y) : ¬ HasPlaceholder s := by
  induction s with
  | nil => simp [HasPlaceholder, pieces_nil]
  | cons c s ih =>
    rw [toList_substitute] at h
    obtain hc | ⟨rfl, p, r, hc⟩ := pieces_cons c s
    · rw [hc] at h
      have hs := ih (by rw [toList_substitute]; exact (List.cons.inj h).2)
      simpa [HasPlaceholder, hc] using hs
    · obtain ⟨z, t, hz, hn⟩ := ha p
      rw [hc, List.flatMap_cons, Piece.text, hz] at h
      exact absurd (List.cons.inj h).1.symm hn

theorem not_hasPlaceholder_of_substitute (ha : ∀ p, ∃ c r, (arg p).toList = c :: r ∧ c ≠ '\x7b')
    {s : List Char} (h : substitute arg s = String.ofList s) : ¬ HasPlaceholder s :=
  not_hasPlaceholder_of_append (x := []) (y := []) ha (by rw [h, String.toList_ofList])

theorem append_eq_substitute_append_iff (ha : ∀ p, ∃ c r, (arg p).toList = c :: r ∧ c ≠ '\x7b')
    {s x y : List Char} :
    s ++ x = (substitute arg s).toList ++ y ↔ ¬ HasPlaceholder s ∧ x = y := by
  constructor
  · intro h
    have hs := not_hasPlaceholder_of_append ha h
    rw [substitute_of_not_hasPlaceholder hs, String.toList_ofList] at h
    exact ⟨hs, List.append_cancel_left h⟩
  · rintro ⟨hs, rfl⟩
    rw [substitute_of_not_hasPlaceholder hs, String.toList_ofList]

end

end Template

end ColumnSql
