import ColumnSql.Expr.Build
import ColumnSql.Proofs.Except
import ColumnSql.Proofs.Expr.Same

/-! A decode is made of a mapping. What is given for it is checked in its order, and the first fault
is the error; if there is none, each key has one branch, where it is first given, with the result
that is given for it last. -/

namespace ColumnSql

/-- The keys that are kept of those given: of keys that are the same, the first. -/
structure FirstKeys (given kept : List Operand) : Prop where
  distinct : kept.Pairwise fun a b => a.same b = false
  /-- Each key that is given is the same as one that is kept, and no other. -/
  single : ∀ k ∈ given, kept.countP k.same = 1
  first : ∀ k ∈ kept, given.find? (·.same k) = some k
  /-- Keys are in the order in which they are given first. -/
  ordered : (kept.map fun k => given.findIdx (·.same k)).Pairwise (· < ·)

structure IsMapping (pairs : List (Operand × Operand)) (branches : List Branch) : Prop where
  keys : FirstKeys (pairs.map (·.1)) (branches.map Branch.key)
  last : ∀ b ∈ branches, (pairs.reverse.find? (·.1.same b.key)).map (·.2) = some b.result

namespace FirstKeys

variable {given kept : List Operand} {c k : Operand}

theorem nil : FirstKeys [] [] := ⟨.nil, by simp, by simp, .nil⟩

theorem exists_kept (h : FirstKeys given kept) (hk : k ∈ given) : ∃ c ∈ kept, k.same c = true := by
  have hc := h.single k hk
  exact List.countP_pos_iff.1 (by omega)

theorem mem_given (h : FirstKeys given kept) (hc : c ∈ kept) : c ∈ given :=
  List.mem_of_find?_eq_some (h.first c hc)

theorem same_self (h : FirstKeys given kept) (hc : c ∈ kept) : c.same c = true := by
  simpa using List.find?_some (h.first c hc)

theorem first_append (h : FirstKeys given kept) (k : Operand) (hc : c ∈ kept) :
    (given ++ [k]).find? (·.same c) = some c := by
  rw [List.find?_append, h.first c hc, Option.some_or]

theorem findIdx_lt (h : FirstKeys given kept) (hc : c ∈ kept) :
    given.findIdx (·.same c) < given.length :=
  List.findIdx_lt_length_of_exists ⟨c, h.mem_given hc, h.same_self hc⟩

theorem findIdx_append (h : FirstKeys given kept) (k : Operand) (hc : c ∈ kept) :
    (given ++ [k]).findIdx (·.same c) = given.findIdx (·.same c) := by
  rw [List.findIdx_append, if_pos (h.findIdx_lt hc)]

theorem map_findIdx_append (h : FirstKeys given kept) (k : Operand) :
    (kept.map fun c => (given ++ [k]).findIdx (·.same c)) =
      kept.map fun c => given.findIdx (·.same c) :=
  List.map_congr_left fun _ hc => h.findIdx_append k hc

theorem snoc_new (h : FirstKeys given kept) (hk : k.same k = true)
    (hn : ∀ c ∈ kept, c.same k = false) : FirstKeys (given ++ [k]) (kept ++ [k]) := by
  have hg : ∀ y ∈ given, y.same k = false := by
    intro y hy
    obtain ⟨c, hc, hyc⟩ := h.exists_kept hy
    refine Bool.eq_false_iff.2 fun hyk => Bool.eq_false_iff.1 (hn c hc) ?_
    exact Operand.same_trans (c.same_comm y ▸ hyc) hyk
  have hi : (given ++ [k]).findIdx (·.same k) = given.length := by
    rw [List.findIdx_append, List.findIdx_eq_length_of_false hg]
    simp [List.findIdx_cons, hk]
  constructor
  · refine List.pairwise_append.2 ⟨h.distinct, List.pairwise_singleton _ _, fun c hc d hd => ?_⟩
    rw [List.mem_singleton.1 hd, hn c hc]
  · intro y hy
    rw [List.countP_append, List.countP_singleton]
    rcases List.mem_append.1 hy with hy | hy
    · simp [h.single y hy, hg y hy]
    · obtain rfl := List.mem_singleton.1 hy
      have hz : kept.countP y.same = 0 :=
        List.countP_eq_zero.2 fun c hc => by simp [y.same_comm c, hn c hc]
      simp [hz, hk]
  · intro c hc
    rcases List.mem_append.1 hc with hc | hc
    · exact h.first_append k hc
    · obtain rfl := List.mem_singleton.1 hc
      rw [List.find?_append, List.find?_eq_none.2 fun y hy => by simp [hg y hy]]
      simp [hk]
  · rw [List.map_append, h.map_findIdx_append]
    refine List.pairwise_append.2 ⟨h.ordered, List.pairwise_singleton _ _, fun i hi' j hj => ?_⟩
    obtain ⟨c, hc, rfl⟩ := List.mem_map.1 hi'
    have hj : j = given.length := (List.mem_singleton.1 hj).trans hi
    exact hj ▸ h.findIdx_lt hc

theorem snoc_same (h : FirstKeys given kept) (hc : c ∈ kept) (hs : c.same k = true) :
    FirstKeys (given ++ [k]) kept := by
  refine ⟨h.distinct, fun y hy => ?_, fun d hd => h.first_append k hd, ?_⟩
  · rcases List.mem_append.1 hy with hy | hy
    · exact h.single y hy
    · rw [List.mem_singleton.1 hy, ← h.single c (h.mem_given hc)]
      refine List.countP_congr fun d _ => ?_
      exact ⟨Operand.same_trans hs, Operand.same_trans (c.same_comm k ▸ hs)⟩
  · rw [h.map_findIdx_append]
    exact h.ordered

end FirstKeys

namespace Expr

variable {key : Operand} {bs : List Branch}

theorem addBranch_of_new (h : ∀ b ∈ bs, b.key.same key = false) (result : Operand) :
    addBranch key result bs = bs ++ [.mk key result] := by
  induction bs with
  | nil => rfl
  | cons b bs ih =>
    obtain ⟨hb, hs⟩ := List.forall_mem_cons.1 h
    rw [addBranch, hb, ih hs]
    rfl

theorem exists_addBranch_of_mem (h : ∃ b ∈ bs, b.key.same key = true) (result : Operand) :
    ∃ l b r, b.key.same key = true ∧ bs = l ++ b :: r ∧
      addBranch key result bs = l ++ .mk b.key result :: r := by
  induction bs with
  | nil => simp at h
  | cons c bs ih =>
    rw [addBranch]
    split
    next hc => exact ⟨[], c, bs, hc, rfl, rfl⟩
    next hc =>
      obtain ⟨l, b, r, hb, rfl, hr⟩ := ih (by simpa [hc] using h)
      exact ⟨c :: l, b, r, hb, rfl, by rw [hr]; rfl⟩

end Expr

namespace IsMapping

variable {pairs : List (Operand × Operand)} {branches : List Branch}

theorem nil : IsMapping [] [] := ⟨.nil, by simp⟩

/-- One more pair adds a branch to the mapping, or changes the result of one. -/
theorem snoc (h : IsMapping pairs branches) {x : Operand × Operand} (hx : x.1.same x.1 = true) :
    IsMapping (pairs ++ [x]) (Expr.addBranch x.1 x.2 branches) := by
  have hlast {b : Branch} (hb : b ∈ branches) (hs : x.1.same b.key = false) :
      ((pairs ++ [x]).reverse.find? (·.1.same b.key)).map (·.2) = some b.result := by
    rw [List.reverse_append, List.reverse_singleton, List.singleton_append, List.find?_cons, hs]
    exact h.last b hb
  have hnew {b : Branch} (hs : x.1.same b.key = true) (hr : b.result = x.2) :
      ((pairs ++ [x]).reverse.find? (·.1.same b.key)).map (·.2) = some b.result := by
    simp [hs, hr]
  by_cases hb : ∃ b ∈ branches, b.key.same x.1 = true
  · obtain ⟨l, b, r, hs, rfl, ha⟩ := Expr.exists_addBranch_of_mem hb x.2
    obtain ⟨-, hr, hl⟩ := List.pairwise_append.1 (List.pairwise_map.1 h.keys.distinct)
    have hx : x.1.same b.key = true := b.key.same_comm x.1 ▸ hs
    -- all other branches have other keys
    have hne {c : Branch} (hc : b.key.same c.key = false) : x.1.same c.key = false :=
      Bool.eq_false_iff.2 fun hxc => Bool.eq_false_iff.1 hc (Operand.same_trans hs hxc)
    rw [ha]
    refine ⟨?_, fun c hc => ?_⟩
    · have hk := h.keys.snoc_same (List.mem_map_of_mem (List.mem_append_right l
        (List.mem_cons_self ..))) hs
      simpa [Branch.key] using hk
    · rcases List.mem_append.1 hc with hc | hc
      · have hcb := hl c hc b (List.mem_cons_self ..)
        exact hlast (List.mem_append_left _ hc) (hne (b.key.same_comm c.key ▸ hcb))
      rcases List.mem_cons.1 hc with rfl | hc
      · exact hnew hx rfl
      · exact hlast (List.mem_append_right _ (List.mem_cons_of_mem _ hc))
          (hne ((List.pairwise_cons.1 hr).1 c hc))
  · have hn : ∀ b ∈ branches, b.key.same x.1 = false := by simpa using hb
    rw [Expr.addBranch_of_new hn]
    refine ⟨?_, fun c hc => ?_⟩
    · rw [List.map_append, List.map_append]
      exact h.keys.snoc_new hx (List.forall_mem_map.2 hn)
    · rcases List.mem_append.1 hc with hc | hc
      · exact hlast hc (x.1.same_comm c.key ▸ hn c hc)
      · obtain rfl := List.mem_singleton.1 hc
        exact hnew hx rfl

theorem foldl (h : IsMapping pairs branches) {rest : List (Operand × Operand)}
    (hr : ∀ x ∈ rest, x.1.same x.1 = true) :
    IsMapping (pairs ++ rest)
      (rest.foldl (fun bs x => Expr.addBranch x.1 x.2 bs) branches) := by
  induction rest generalizing pairs branches with
  | nil => rwa [List.append_nil]
  | cons x rest ih =>
    obtain ⟨hx, hr⟩ := List.forall_mem_cons.1 hr
    rw [List.append_cons]
    exact ih (h.snoc hx) hr

end IsMapping

namespace Expr

def branchesOf (pairs : List (Operand × Operand)) : List Branch :=
  pairs.foldl (fun bs x => addBranch x.1 x.2 bs) []

theorem isMapping_branchesOf {pairs : List (Operand × Operand)}
    (h : ∀ x ∈ pairs, x.1.same x.1 = true) : IsMapping pairs (branchesOf pairs) :=
  IsMapping.nil.foldl h

/-- what is given for a decode of key type `k` and result type `t` with the type that it must fit,
in the order in which it is checked -/
def decodeItems (k t : DataType) (pairs : List (Operand × Operand)) (otherwise : Option Operand) :
    List (Operand × DataType) :=
  pairs.flatMap (fun x => [(x.1, k), (x.2, t)]) ++ otherwise.toList.map (·, t)

def checkAll : List (Operand × DataType) → Except ExprError Unit
  | [] => .ok ()
  | x :: r => do
    x.1.check x.2
    checkAll r

theorem checkAll_append (a b : List (Operand × DataType)) :
    checkAll (a ++ b) = checkAll a >>= fun _ => checkAll b := by
  induction a with
  | nil => rfl
  | cons x a ih => rw [List.cons_append, checkAll, checkAll, ih, bind_assoc]

theorem checkAll_eq_forM (items : List (Operand × DataType)) :
    checkAll items = items.forM fun x => x.1.check x.2 := by
  induction items with
  | nil => rfl
  | cons x r ih =>
    rw [checkAll, ih]
    rfl

theorem checkAll_eq_ok_iff {items : List (Operand × DataType)} :
    checkAll items = .ok () ↔ ∀ x ∈ items, x.1.check x.2 = .ok () := by
  rw [checkAll_eq_forM, forM_check_eq_ok_iff]

theorem checkAll_eq_error_iff {items : List (Operand × DataType)} {e : ExprError} :
    checkAll items = .error e ↔ ∃ before x after, items = before ++ x :: after ∧
      (∀ y ∈ before, y.1.check y.2 = .ok ()) ∧ x.1.check x.2 = .error e := by
  rw [checkAll_eq_forM, forM_check_eq_error_iff]

theorem foldlM_checkBranch (k t : DataType) (pairs : List (Operand × Operand)) (bs : List Branch) :
    pairs.foldlM (checkBranch k t) bs = do
      checkAll (pairs.flatMap fun x => [(x.1, k), (x.2, t)])
      return pairs.foldl (fun bs x => addBranch x.1 x.2 bs) bs := by
  induction pairs generalizing bs with
  | nil => rfl
  | cons x pairs ih =>
    rw [List.foldlM_cons]
    simp only [checkBranch, ih, checkAll, List.flatMap_cons, List.cons_append, List.nil_append,
      bind_assoc, pure_bind, List.foldl_cons]

/-- A decode is made once all that is given for it fits. -/
theorem decode_eq (e : Expr) (pairs : List (Operand × Operand)) (otherwise : Option Operand)
    (t : DataType) (place : Place) : e.decode pairs otherwise t place = do
      checkAll (decodeItems e.dataType t pairs otherwise)
      return ofNode (.decode e (branchesOf pairs) otherwise t) place := by
  rw [decode, foldlM_checkBranch, decodeItems, checkAll_append]
  cases otherwise with
  | none => simp [checkAll]; rfl
  | some v => simp [checkAll]; rfl

/-- A decode that is made has as its branches the mapping of the pairs. It is made exactly if all
keys fit the type of the condition, and all results and that for other keys the type of the decode,
also results that others replace later. If not, the error is that of the first of these, in the
order in which they are given, that does not fit. -/
theorem decode_mapping (e : Expr) (pairs : List (Operand × Operand)) (otherwise : Option Operand)
    (t : DataType) (place : Place) :
    let items := decodeItems e.dataType t pairs otherwise
    (∀ r, e.decode pairs otherwise t place = .ok r → ∃ branches,
      r = ofNode (.decode e branches otherwise t) place ∧ IsMapping pairs branches) ∧
    ((∃ r, e.decode pairs otherwise t place = .ok r) ↔ ∀ x ∈ items, x.1.check x.2 = .ok ()) ∧
    ∀ err, e.decode pairs otherwise t place = .error err ↔ ∃ before x after,
      items = before ++ x :: after ∧ (∀ y ∈ before, y.1.check y.2 = .ok ()) ∧
        x.1.check x.2 = .error err := by
  intro items
  rw [decode_eq]
  cases hc : checkAll items with
  | ok _ =>
    have hi := checkAll_eq_ok_iff.1 hc
    have hk : ∀ x ∈ pairs, x.1.same x.1 = true := by
      intro x hx
      refine Operand.same_self (hi (x.1, e.dataType) (List.mem_append_left _ ?_))
      exact List.mem_flatMap_of_mem hx (List.mem_cons_self ..)
    refine ⟨fun r hr => ?_, ⟨fun _ => hi, fun _ => ⟨_, rfl⟩⟩, fun err => ?_⟩
    · exact ⟨_, (Except.ok.inj hr).symm, isMapping_branchesOf hk⟩
    · rw [← checkAll_eq_error_iff, hc]
      exact ⟨nofun, nofun⟩
  | error f =>
    refine ⟨nofun, ⟨nofun, fun hi => ?_⟩, fun err => ?_⟩
    · cases hc.symm.trans (checkAll_eq_ok_iff.2 hi)
    · rw [← checkAll_eq_error_iff, hc]
      constructor <;> rintro ⟨⟩ <;> rfl

/-- Zero is one key, whatever its sign, and keeps the place and the form in which it is first
given. -/
theorem decode_mapping_zero :
    let e := column ⟨none, "A", .float⟩ [0]
    let pairs : List (Operand × Operand) := [(.value (.float 0.0), .ofText "x"),
      (.list [.value (.float 1.5), .value .null], .ofText "y"),
      (.value (.float (-0.0)), .ofText "z")]
    let branches : List Branch := [.mk (.value (.float 0.0)) (.ofText "z"),
      .mk (.list [.value (.float 1.5), .value .null]) (.ofText "y")]
    e.decode pairs none .varchar [1] = .ok (ofNode (.decode e branches none .varchar) [1]) ∧
      IsMapping pairs branches := by
  intro e pairs branches
  have h₀ : Decimal.isFinite 0.0 = true ∧ Decimal.isFinite (-0.0) = true := by decide
  have h₁ : Decimal.isFinite 1.5 = true := by decide +kernel
  have hz : ((0.0 : Float) == -0.0) = true := by decide
  have he : e.dataType = .float := rfl
  have hi : ∀ x ∈ decodeItems e.dataType .varchar pairs none, x.1.check x.2 = .ok () := by
    simp [he, decodeItems, pairs, Operand.check, Operand.checkItems, Value.check, Value.isEmpty,
      Value.isRaw, Operand.ofText, DataType.isNumeric, DataType.isTemporal, h₀, h₁]
  have hb : branchesOf pairs = branches := by
    simp [branchesOf, pairs, branches, addBranch, Branch.key, Operand.same, Value.same, hz]
  have h : e.decode pairs none .varchar [1] =
      .ok (ofNode (.decode e branches none .varchar) [1]) := by
    rw [decode_eq, checkAll_eq_ok_iff.2 hi, hb]
    rfl
  obtain ⟨_, hr, hm⟩ := (decode_mapping e pairs none .varchar [1]).1 _ h
  cases hr
  exact ⟨h, hm⟩

end Expr

end ColumnSql
