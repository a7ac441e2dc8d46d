/-! Texts between quotes, with every closing quote inside written twice. -/

namespace ColumnSql.Text

def double (close : Char) (s : List Char) : List Char :=
  s.flatMap fun c => if c = close then [c, c] else [c]

def quoted (left close : Char) (s : String) : String :=
  String.ofList (left :: double close s.toList ++ [close])

theorem double_nil (close : Char) : double close [] = [] := rfl

theorem double_cons (close c : Char) (s : List Char) :
    double close (c :: s) = (if c = close then [c, c] else [c]) ++ double close s := rfl

theorem double_of_not_mem {close : Char} {s : List Char} (h : close ∉ s) : double close s = s := by
  induction s with
  | nil => rfl
  | cons c s ih =>
    simp only [List.mem_cons, not_or] at h
    rw [double_cons, if_neg (Ne.symm h.1), ih h.2]
    rfl

end ColumnSql.Text
