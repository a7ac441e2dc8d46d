import ColumnSql.Proofs.Expr.Sql

/-! The texts of an operand. A list has the texts of its items, with the separator between them, and
so have the lists in it; an empty list has an empty text there. -/

namespace ColumnSql

/-- The texts `a` are the texts `b` with `n` empty ones among them. -/
inductive Padded : List String → List String → Nat → Prop
  | nil : Padded [] [] 0
  | text (s : String) {a b : List String} {n : Nat} : Padded a b n → Padded (s :: a) (s :: b) n
  | empty {a b : List String} {n : Nat} : Padded a b n → Padded ("" :: a) b (n + 1)

namespace Padded

variable {a b c d : List String} {m n : Nat}

theorem single (s : String) : Padded [s] [s] 0 := .text s .nil

theorem append (h : Padded a b m) (h' : Padded c d n) :
    Padded (a ++ c) (b ++ d) (m + n) := by
  induction h with
  | nil => rwa [Nat.zero_add]
  | text s _ ih => exact .text s ih
  | empty _ ih =>
    rw [Nat.add_right_comm]
    exact .empty ih

theorem length_eq (h : Padded a b n) : a.length = b.length + n := by
  induction h with
  | nil => rfl
  | text s _ ih => simp only [List.length_cons, ih, Nat.add_right_comm]
  | empty _ ih => rw [List.length_cons, ih, Nat.add_assoc]

theorem join_eq (h : Padded a b n) : String.join a = String.join b := by
  induction h with
  | nil => rfl
  | text s _ ih => rw [String.join_cons, String.join_cons, ih]
  | empty _ ih => rw [String.join_cons, ih, String.empty_append]

theorem eq_of_zero (h : Padded a b 0) : a = b := by
  generalize hn : 0 = n at h
  induction h with
  | nil => rfl
  | text s _ ih => rw [ih hn]
  | empty => cases hn

end Padded

namespace Operand

/-- whether an operand is one argument: a list is, if it is empty or has one item that is -/
def isSingle : Operand → Bool
  | .expr _ | .value _ | .list [] => true
  | .list [x] => x.isSingle
  | .list (_ :: _ :: _) => false

mutual

/-- the items of an operand, with those of the lists in it; what is no list is its own item -/
def leaves : Operand → List Operand
  | .expr e => [.expr e]
  | .value v => [.value v]
  | .list items => allLeaves items

def allLeaves : List Operand → List Operand
  | [] => []
  | x :: r => x.leaves ++ allLeaves r

end

mutual

def emptyLists : Operand → Nat
  | .expr _ | .value _ => 0
  | .list [] => 1
  | .list (x :: r) => x.emptyLists + allEmptyLists r

def allEmptyLists : List Operand → Nat
  | [] => 0
  | x :: r => x.emptyLists + allEmptyLists r

end

section

variable (type : DataType) (t : Target) (ctx : Context)

mutual

/-- the SQL of an operand cut at the commas of its lists; an empty list is an empty text -/
def argumentTexts : Operand → List String
  | .expr e => [e.sql t ctx]
  | .value v => [t.literal v type]
  | .list [] => [""]
  | .list (x :: r) => x.argumentTexts ++ itemTexts r

def itemTexts : List Operand → List String
  | [] => []
  | x :: r => x.argumentTexts ++ itemTexts r

end

def leafTexts (v : Operand) : List String := v.leaves.map fun x => x.sql type "" t ctx

theorem itemTexts_eq (vs : List Operand) :
    itemTexts type t ctx vs = vs.flatMap (argumentTexts type t ctx) := by
  induction vs with
  | nil => rfl
  | cons v r ih => rw [itemTexts, ih, List.flatMap_cons]

mutual

/-- With the separator in front, the SQL of an operand is its texts each with the separator in
front. -/
theorem separator_sql (separator : String) : ∀ v : Operand,
    separator ++ v.sql type separator t ctx =
      String.join ((v.argumentTexts type t ctx).map (separator ++ ·))
  | .expr e => by simp [argumentTexts]
  | .value v => by simp [argumentTexts]
  | .list [] => by simp [argumentTexts]
  | .list (x :: r) => by
    rw [sql_list, List.map_cons, ← append_join_eq_intercalate, ← String.append_assoc,
      separator_sql separator x, argumentTexts, List.map_append, String.join_append,
      ← separator_sqlItems separator r, List.map_map]
    rfl

theorem separator_sqlItems (separator : String) : ∀ vs : List Operand,
    String.join (vs.map fun v => separator ++ v.sql type separator t ctx) =
      String.join ((itemTexts type t ctx vs).map (separator ++ ·))
  | [] => rfl
  | x :: r => by
    rw [List.map_cons, String.join_cons, separator_sql separator x,
      separator_sqlItems separator r, itemTexts, List.map_append, String.join_append]

end

theorem argumentTexts_length_pos : ∀ v : Operand, 0 < (v.argumentTexts type t ctx).length
  | .expr _ | .value _ | .list [] => by simp [argumentTexts]
  | .list (x :: r) => by
    have := argumentTexts_length_pos x
    simp only [argumentTexts, List.length_append]
    omega

theorem argumentTexts_length_eq_one_iff : ∀ v : Operand,
    (v.argumentTexts type t ctx).length = 1 ↔ v.isSingle = true
  | .expr _ | .value _ | .list [] => by simp [argumentTexts, isSingle]
  | .list [x] => by
    simpa [argumentTexts, itemTexts, isSingle] using argumentTexts_length_eq_one_iff x
  | .list (x :: y :: r) => by
    have hx := argumentTexts_length_pos type t ctx x
    have hy := argumentTexts_length_pos type t ctx y
    simp only [argumentTexts, itemTexts, isSingle, List.length_append]
    exact iff_of_false (by omega) Bool.false_ne_true

theorem argumentTexts_of_isSingle {v : Operand} (h : v.isSingle = true) :
    v.argumentTexts type t ctx = [v.sql type ", " t ctx] := by
  obtain ⟨s, hs⟩ := List.length_eq_one_iff.1 ((argumentTexts_length_eq_one_iff type t ctx v).2 h)
  have hv := separator_sql type t ctx ", " v
  rw [hs] at hv ⊢
  have hv : ", " ++ v.sql type ", " t ctx = ", " ++ s := by simpa using hv
  rw [(String.append_right_inj _).1 hv]

theorem sql_eq_intercalate (separator : String) (v : Operand) :
    v.sql type separator t ctx = separator.intercalate (v.argumentTexts type t ctx) := by
  obtain ⟨x, r, hx⟩ := List.exists_cons_of_length_pos (argumentTexts_length_pos type t ctx v)
  have h := separator_sql type t ctx separator v
  rw [hx, List.map_cons, String.join_cons, String.append_assoc, String.append_right_inj,
    append_join_eq_intercalate] at h
  rw [h, hx]

theorem append_separator_sql (s separator : String) (v : Operand) :
    s ++ separator ++ v.sql type separator t ctx =
      separator.intercalate (s :: v.argumentTexts type t ctx) := by
  rw [String.append_assoc, separator_sql, append_join_eq_intercalate]

mutual

/-- The texts are those of the items, and an empty one for each empty list. -/
theorem padded_argumentTexts : ∀ v : Operand,
    Padded (v.argumentTexts type t ctx) (v.leafTexts type t ctx) v.emptyLists
  | .expr e => by simpa [argumentTexts, leafTexts, leaves, emptyLists] using .single (e.sql t ctx)
  | .value v => by
    simpa [argumentTexts, leafTexts, leaves, emptyLists] using .single (t.literal v type)
  | .list [] => .empty .nil
  | .list (x :: r) => by
    have h := (padded_argumentTexts x).append (padded_itemTexts r)
    rwa [leafTexts, ← List.map_append] at h

theorem padded_itemTexts : ∀ vs : List Operand,
    Padded (itemTexts type t ctx vs) ((allLeaves vs).map fun x => x.sql type "" t ctx)
      (allEmptyLists vs)
  | [] => .nil
  | x :: r => by
    have h := (padded_argumentTexts x).append (padded_itemTexts r)
    rwa [leafTexts, ← List.map_append] at h

end

end

end Operand

end ColumnSql
