/-! Computations that may end in an error. -/

namespace ColumnSql

variable {α β ε φ : Type}

theorem exists_of_bind_eq_ok {x : Except ε α} {f : α → Except ε β} {b : β}
    (h : x >>= f = .ok b) : ∃ a, x = .ok a ∧ f a = .ok b := by
  cases x with
  | error _ => cases h
  | ok a => exact ⟨a, rfl, h⟩

theorem bind_eq_ok_iff {x : Except ε α} {f : α → Except ε β} {b : β} :
    x >>= f = .ok b ↔ ∃ a, x = .ok a ∧ f a = .ok b :=
  ⟨exists_of_bind_eq_ok, fun ⟨_, hx, hf⟩ => hx ▸ hf⟩

/-- A computation fails in its first step, or in the others once that succeeds. -/
theorem bind_eq_error_iff {x : Except ε α} {f : α → Except ε β} {e : ε} :
    x >>= f = .error e ↔ x = .error e ∨ ∃ a, x = .ok a ∧ f a = .error e := by
  cases x with
  | error d => simp [bind, Except.bind]
  | ok a => simp [bind, Except.bind]

theorem mapError_eq_ok_iff {x : Except ε α} {f : ε → φ} {a : α} :
    x.mapError f = .ok a ↔ x = .ok a := by
  cases x with
  | error e => exact iff_of_false nofun nofun
  | ok b => exact ⟨fun h => congrArg _ (Except.ok.inj h), fun h => congrArg _ (Except.ok.inj h)⟩

theorem mapError_eq_error_iff {x : Except ε α} {f : ε → φ} {d : φ} :
    x.mapError f = .error d ↔ ∃ e, x = .error e ∧ f e = d := by
  constructor
  · intro h
    cases x with
    | error e => exact ⟨e, rfl, Except.error.inj h⟩
    | ok b => cases h
  · rintro ⟨e, rfl, rfl⟩
    rfl

/-! Items that are checked one after the other: all pass, or the error is that of the first that
does not. -/

variable {check : α → Except ε Unit} {items : List α} {e : ε}

theorem forM_check_eq_ok_iff : items.forM check = .ok () ↔ ∀ x ∈ items, check x = .ok () := by
  induction items with
  | nil => exact ⟨fun _ => List.forall_mem_nil _, fun _ => rfl⟩
  | cons x r ih =>
    rw [List.forall_mem_cons, ← ih]
    change (check x >>= fun _ => r.forM check) = _ ↔ _
    cases check x with
    | ok _ => exact (and_iff_right rfl).symm
    | error e => simp [bind, Except.bind]

theorem forM_check_eq_error_iff :
    items.forM check = .error e ↔ ∃ before x after, items = before ++ x :: after ∧
      (∀ y ∈ before, check y = .ok ()) ∧ check x = .error e := by
  induction items with
  | nil => exact ⟨nofun, by simp⟩
  | cons x r ih =>
    change (check x >>= fun _ => r.forM check) = _ ↔ _
    cases hx : check x with
    | error f =>
      constructor
      · intro h
        exact ⟨[], x, r, rfl, List.forall_mem_nil _, hx.trans h⟩
      · rintro ⟨_ | ⟨y, before⟩, z, after, h, hb, hz⟩
        · cases h
          exact hx.symm.trans hz
        · cases h
          have hy := hb x (List.mem_cons_self ..)
          rw [hx] at hy
          cases hy
    | ok _ =>
      change r.forM check = _ ↔ _
      rw [ih]
      constructor
      · rintro ⟨before, y, after, rfl, hb, hy⟩
        exact ⟨x :: before, y, after, rfl, List.forall_mem_cons.2 ⟨hx, hb⟩, hy⟩
      · rintro ⟨_ | ⟨y, before⟩, z, after, h, hb, hz⟩
        · cases h
          rw [hx] at hz
          cases hz
        · cases h
          exact ⟨before, z, after, rfl, (List.forall_mem_cons.1 hb).2, hz⟩

end ColumnSql
