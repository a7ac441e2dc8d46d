import ColumnSql.Decimal.Shortest

/-! Equality of floating-point numbers is an equivalence on those that are finite. It is not that of
the bits: both zeros are one number, and NaN is equal to nothing. -/

namespace ColumnSql.Decimal

open Float.Model (UnpackedFloat)

/-- what a number is compared as: NaN as nothing, and both zeros as one -/
def comparand? : UnpackedFloat → Option UnpackedFloat
  | .notANumber => none
  | .zero _ => some (.zero .positive)
  | n => some n

theorem compare_finite_iff {s t : UnpackedFloat.Sign} {m n : Nat} {e f : Int} (hm : 0 < m)
    (hn : 0 < n) : (UnpackedFloat.finite s m e hm).compare (.finite t n f hn) = some .eq ↔
      s = t ∧ m = n ∧ e = f := by
  cases s with
  | positive =>
    cases t with
    | positive =>
      change some ((compare e f).then (compare m n)) = _ ↔ _
      simp [Ordering.then_eq_eq, and_comm]
    | negative => exact iff_of_false nofun nofun
  | negative =>
    cases t with
    | positive => exact iff_of_false nofun nofun
    | negative =>
      change some ((compare e f).then (compare m n)).swap = _ ↔ _
      simp [Ordering.then_eq_eq, and_comm]

theorem not_comparand_of_ne {a b x y : UnpackedFloat} (ha : comparand? a = some x)
    (hb : comparand? b = some y) (h : x ≠ y) :
    ¬ ∃ n, comparand? a = some n ∧ comparand? b = some n := by
  rintro ⟨n, hx, hy⟩
  exact h ((Option.some.inj (ha.symm.trans hx)).trans (Option.some.inj (hb.symm.trans hy)).symm)

theorem compare_eq_iff (a b : UnpackedFloat) :
    a.compare b = some .eq ↔ ∃ n, comparand? a = some n ∧ comparand? b = some n := by
  cases a with
  | notANumber => exact iff_of_false nofun fun ⟨_, h, _⟩ => nomatch h
  | infinity s =>
    cases b with
    | notANumber => exact iff_of_false nofun fun ⟨_, _, h⟩ => nomatch h
    | infinity t =>
      cases s <;> cases t <;> first
        | exact iff_of_true rfl ⟨_, rfl, rfl⟩
        | exact iff_of_false (by decide) (not_comparand_of_ne rfl rfl nofun)
    | zero | finite =>
      cases s <;> exact iff_of_false nofun (not_comparand_of_ne rfl rfl nofun)
  | zero s =>
    cases b with
    | notANumber => exact iff_of_false nofun fun ⟨_, _, h⟩ => nomatch h
    | zero => exact iff_of_true rfl ⟨_, rfl, rfl⟩
    | infinity t | finite t =>
      cases t <;> exact iff_of_false nofun (not_comparand_of_ne rfl rfl nofun)
  | finite s m e hm =>
    cases b with
    | notANumber => exact iff_of_false nofun fun ⟨_, _, h⟩ => nomatch h
    | zero => cases s <;> exact iff_of_false nofun (not_comparand_of_ne rfl rfl nofun)
    | infinity t => cases t <;> exact iff_of_false nofun (not_comparand_of_ne rfl rfl nofun)
    | finite t n f hn =>
      rw [compare_finite_iff]
      constructor
      · rintro ⟨rfl, rfl, rfl⟩
        exact ⟨_, rfl, rfl⟩
      · rintro ⟨_, ⟨⟩, ⟨⟩⟩
        exact ⟨rfl, rfl, rfl⟩

theorem float_beq_iff {x y : Float} : (x == y) = true ↔
    ∃ n, comparand? x.toModel.unpack = some n ∧ comparand? y.toModel.unpack = some n :=
  (beq_iff_eq (α := Option Ordering)).trans (compare_eq_iff _ _)

theorem toNat_unpackExponent (x : Float) :
    (@UnpackedFloat.unpackExponent .binary64 x.toBits.toBitVec).toNat =
      exponentField x := by
  simp [UnpackedFloat.unpackExponent, exponentField, Nat.and_two_pow_sub_one_eq_mod _ 11]

/-- NaN has the exponent of infinity. -/
theorem exists_comparand {x : Float} (h : isFinite x = true) :
    ∃ n, comparand? x.toModel.unpack = some n := by
  have he : @UnpackedFloat.unpackExponent .binary64 x.toBits.toBitVec ≠ -1#_ := by
    intro he
    have hx := toNat_unpackExponent x
    rw [he] at hx
    simp [isFinite, ← hx] at h
  change ∃ n, comparand? (UnpackedFloat.unpack .binary64 x.toBits.toBitVec) = some n
  delta UnpackedFloat.unpack
  dsimp only
  rw [if_neg he]
  refine iteInduction (motive := fun a => ∃ n, comparand? a = some n) (fun _ => ?_)
    fun _ => ⟨_, rfl⟩
  by_cases hm : @UnpackedFloat.unpackMantissa .binary64 x.toBits.toBitVec = 0#_
  · exact ⟨_, congrArg comparand? (dif_pos hm)⟩
  · exact ⟨_, congrArg comparand? (dif_neg hm)⟩

theorem float_beq_comm (x y : Float) : (x == y) = (y == x) := by
  rw [Bool.eq_iff_iff, float_beq_iff, float_beq_iff]
  simp only [and_comm]

theorem float_beq_trans {x y z : Float} (hx : (x == y) = true) (hy : (y == z) = true) :
    (x == z) = true := by
  obtain ⟨m, hx, hm⟩ := float_beq_iff.1 hx
  obtain ⟨n, hn, hz⟩ := float_beq_iff.1 hy
  obtain rfl : m = n := Option.some.inj (hm.symm.trans hn)
  exact float_beq_iff.2 ⟨m, hx, hz⟩

theorem float_beq_self {x : Float} (h : isFinite x = true) : (x == x) = true := by
  obtain ⟨n, hn⟩ := exists_comparand h
  exact float_beq_iff.2 ⟨n, hn, hn⟩

example : ((0.0 : Float) == -0.0) = true := by decide

end ColumnSql.Decimal
