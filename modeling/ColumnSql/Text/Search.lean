/-! One text inside another: the first place where it stands, and every place in one pass. -/

namespace ColumnSql.Text

def after? (p s : List Char) : Option (List Char) :=
  if p.isPrefixOf s then some (s.drop p.length) else none

def splitFirst (p : List Char) : List Char → Option (List Char × List Char)
  | [] => if p.isEmpty then some ([], []) else none
  | c :: s =>
    if p.isPrefixOf (c :: s) then some ([], (c :: s).drop p.length)
    else (splitFirst p s).map fun x => (c :: x.1, x.2)

/-- `r` for each `p`, from the left and without overlap, after `n` characters to be passed over -/
def replaceFrom (p r : List Char) : Nat → List Char → List Char
  | _, [] => []
  | n + 1, _ :: s => replaceFrom p r n s
  | 0, c :: s =>
    if p.isPrefixOf (c :: s) then r ++ replaceFrom p r (p.length - 1) s
    else c :: replaceFrom p r 0 s

def replaceAll (p r s : List Char) : List Char := replaceFrom p r 0 s

theorem append_drop_of_isPrefixOf {p s : List Char} (h : p.isPrefixOf s = true) :
    p ++ s.drop p.length = s := by
  obtain ⟨t, rfl⟩ := List.isPrefixOf_iff_prefix.1 h
  simp

theorem eq_append_of_splitFirst {p s a b : List Char} (h : splitFirst p s = some (a, b)) :
    s = a ++ p ++ b := by
  induction s generalizing a b with
  | nil =>
    simp only [splitFirst, List.isEmpty_iff] at h
    split at h <;> simp_all
  | cons c s ih =>
    simp only [splitFirst] at h
    split at h
    next hp =>
      simp only [Option.some.injEq, Prod.mk.injEq] at h
      obtain ⟨rfl, rfl⟩ := h
      exact (append_drop_of_isPrefixOf hp).symm
    next =>
      obtain ⟨⟨x, y⟩, hx, he⟩ := Option.map_eq_some_iff.1 h
      simp only [Prod.mk.injEq] at he
      obtain ⟨rfl, rfl⟩ := he
      simp [ih hx]

theorem splitFirst_append_cons {c : Char} {a : List Char} (h : c ∉ a) (b : List Char) :
    splitFirst [c] (a ++ c :: b) = some (a, b) := by
  induction a with
  | nil => simp [splitFirst]
  | cons x a ih =>
    rw [List.mem_cons, not_or] at h
    simp [splitFirst, h.1, ih h.2]

theorem replaceAll_of_splitFirst {p s : List Char} (r : List Char) (h : splitFirst p s = none) :
    replaceAll p r s = s := by
  rw [replaceAll]
  induction s with
  | nil => rfl
  | cons c s ih =>
    rw [splitFirst] at h
    split at h
    · exact absurd h (by simp)
    next hp => rw [replaceFrom, if_neg hp, ih (by simpa using h)]

theorem length_replaceFrom_le (p : List Char) {r t : List Char} (h : r.length ≤ t.length) (n : Nat)
    (s : List Char) : (replaceFrom p r n s).length ≤ (replaceFrom p t n s).length := by
  induction s generalizing n with
  | nil => simp [replaceFrom]
  | cons c s ih =>
    cases n with
    | succ n => exact ih n
    | zero =>
      rw [replaceFrom, replaceFrom]
      split
      · simpa using Nat.add_le_add h (ih _)
      · simpa using ih 0

/-- A longer text in the place of `p` is seen, if there is a `p`. -/
theorem length_replaceAll_lt {p r s t : List Char} (hp : p ≠ []) (h : r.length < t.length)
    (hs : (splitFirst p s).isSome = true) :
    (replaceAll p r s).length < (replaceAll p t s).length := by
  rw [replaceAll, replaceAll]
  induction s with
  | nil => simp [splitFirst, hp] at hs
  | cons c s ih =>
    rw [replaceFrom, replaceFrom]
    split
    · simpa using Nat.add_lt_add_of_lt_of_le h (length_replaceFrom_le p (Nat.le_of_lt h) _ s)
    next hn =>
      rw [splitFirst, if_neg hn] at hs
      simpa using ih (by simpa using hs)

end ColumnSql.Text
