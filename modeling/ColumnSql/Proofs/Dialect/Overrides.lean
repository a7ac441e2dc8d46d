import ColumnSql.CommandLine.Run
import ColumnSql.Proofs.Dialect.PhraseTable
import ColumnSql.Proofs.Except

/-! Tables built from templates one after the other. Each template is checked when it is added, and
the last one for a phrase holds. So nothing is left for a check of the finished table to find. -/

namespace ColumnSql

namespace Phrase

variable {p : Phrase} {s : String} {e : ExprError}

/-- The template may stand for the phrase: there is none, it has a place for an operand, or none is
needed. -/
def Suits (p : Phrase) (s : String) : Prop :=
  s = "" ∨ '?' ∈ s.toList ∨ p.takesOperand = false

instance (p : Phrase) (s : String) : Decidable (p.Suits s) :=
  inferInstanceAs (Decidable (s = "" ∨ '?' ∈ s.toList ∨ p.takesOperand = false))

theorem suits_iff_accepts : p.Suits s ↔ p.accepts s = true := by
  simp [Suits, accepts, hasMark, or_comm, or_left_comm]

theorem check_eq_ok_iff : p.check s = .ok () ↔ p.Suits s := by
  rw [suits_iff_accepts, check]
  split
  next h => exact iff_of_true rfl h
  next h => exact ⟨fun he => (by cases he), fun ha => absurd ha h⟩

theorem check_eq_error_iff : p.check s = .error e ↔ ¬ p.Suits s ∧ e = .invalidPhrase p s := by
  rw [suits_iff_accepts, check]
  split
  next h => exact ⟨fun he => (by cases he), fun hn => absurd h hn.1⟩
  next h => exact ⟨fun he => ⟨h, (Except.error.inj he).symm⟩, fun he => he.2 ▸ rfl⟩

end Phrase

theorem Dialect.check_eq_ok_iff {d : Dialect} :
    d.check = .ok () ↔ ∀ p : Phrase, p.Suits (d.phrase p) := by
  rw [check, forM_check_eq_ok_iff]
  simp only [Phrase.check_eq_ok_iff, Phrase.mem_all, true_imp_iff]

theorem Builtin.suits_template (b : Builtin) (p : Phrase) : p.Suits (b.template p) :=
  Phrase.suits_iff_accepts.2 (b.accepts_template p)

namespace PhraseTable

variable {l m : List (Phrase × String)} {p : Phrase} {s : String} {t : PhraseTable}

def last? (l : List (Phrase × String)) (p : Phrase) : Option String :=
  (l.filter fun x => x.1 = p).getLast?.map (·.2)

theorem last?_append (l m : List (Phrase × String)) (p : Phrase) :
    last? (l ++ m) p = (last? m p).or (last? l p) := by
  rw [last?, List.filter_append, List.getLast?_append, Option.map_or]
  rfl

theorem last?_cons (x : Phrase × String) (l : List (Phrase × String)) (p : Phrase) :
    last? (x :: l) p = (last? l p).or (if x.1 = p then some x.2 else none) := by
  rw [← List.singleton_append, last?_append]
  by_cases h : x.1 = p <;> simp [last?, h]

theorem last?_eq_none (h : ∀ x ∈ l, x.1 ≠ p) : last? l p = none := by
  rw [last?, List.filter_eq_nil_iff.2 fun x hx => by simpa using h x hx]
  rfl

theorem mem_of_last? (h : last? l p = some s) : (p, s) ∈ l := by
  obtain ⟨x, hx, rfl⟩ := Option.map_eq_some_iff.1 h
  obtain ⟨hm, hp⟩ := List.mem_filter.1 (List.mem_of_getLast? hx)
  obtain rfl : x.1 = p := of_decide_eq_true hp
  exact hm

def replaced (t : PhraseTable) (l : List (Phrase × String)) : PhraseTable :=
  ⟨t.base, fun p => (last? l p).or (t.override p)⟩

theorem replaced_cons (t : PhraseTable) (x : Phrase × String) (l : List (Phrase × String)) :
    t.replaced (x :: l) = (t.set x.1 x.2).replaced l := by
  simp only [replaced, set, mk.injEq, true_and]
  funext p
  rw [last?_cons, Option.or_assoc]
  by_cases h : x.1 = p
  · rw [if_pos h, if_pos h.symm, Option.some_or]
  · rw [if_neg h, if_neg (Ne.symm h), Option.none_or]

/-- To add templates is to check them all and then to put the last of each phrase in its place. -/
theorem foldlM_add (t : PhraseTable) (l : List (Phrase × String)) :
    l.foldlM add t = do
      l.forM fun x => x.1.check x.2
      return t.replaced l := by
  induction l generalizing t with
  | nil => rfl
  | cons x l ih =>
    rw [List.foldlM_cons, replaced_cons]
    change (x.1.check x.2 >>= fun _ => pure (t.set x.1 x.2)) >>= (fun u => l.foldlM add u) =
      (x.1.check x.2 >>= fun _ => l.forM _) >>= _
    rw [bind_assoc, bind_assoc]
    simp only [pure_bind, ih]

theorem ofOverrides_eq (b : Builtin) (l : List (Phrase × String)) :
    ofOverrides b l = do
      l.forM fun x => x.1.check x.2
      return (ofBase b).replaced l :=
  foldlM_add _ l

theorem ofOverrides_eq_ok_iff (b : Builtin) :
    ofOverrides b l = .ok t ↔ (∀ x ∈ l, x.1.Suits x.2) ∧ (ofBase b).replaced l = t := by
  simp only [← Phrase.check_eq_ok_iff]
  rw [← forM_check_eq_ok_iff, ofOverrides_eq, bind_eq_ok_iff]
  exact ⟨fun ⟨_, hc, ht⟩ => ⟨hc, Except.ok.inj ht⟩, fun ⟨hc, ht⟩ => ⟨(), hc, congrArg _ ht⟩⟩

theorem ofOverrides_eq_error_iff (b : Builtin) {e : ExprError} :
    ofOverrides b l = .error e ↔ ∃ before x after, l = before ++ x :: after ∧
      (∀ y ∈ before, y.1.Suits y.2) ∧ ¬ x.1.Suits x.2 ∧ e = .invalidPhrase x.1 x.2 := by
  simp only [← Phrase.check_eq_error_iff]
  simp only [← Phrase.check_eq_ok_iff]
  rw [← forM_check_eq_error_iff, ofOverrides_eq, bind_eq_error_iff]
  exact or_iff_left fun ⟨_, _, h⟩ => nomatch h

theorem phrase_replaced (b : Builtin) (l : List (Phrase × String)) (p : Phrase) :
    ((ofBase b).replaced l).phrase p = (last? l p).getD (b.template p) := by
  simp [phrase, replaced, ofBase]

theorem check_dialect {b : Builtin} (h : ofOverrides b l = .ok t) : t.dialect.check = .ok () := by
  obtain ⟨hl, rfl⟩ := (ofOverrides_eq_ok_iff b).1 h
  refine Dialect.check_eq_ok_iff.2 fun p => ?_
  change p.Suits (((ofBase b).replaced l).phrase p)
  rw [phrase_replaced]
  cases hs : last? l p with
  | none => exact b.suits_template p
  | some s => exact hl (p, s) (mem_of_last? hs)

/-- What is given for each phrase, in its order, is all that counts. -/
theorem ofOverrides_congr (b : Builtin) (h : ∀ p, m.filter (·.1 = p) = l.filter (·.1 = p))
    (ht : ofOverrides b l = .ok t) : ofOverrides b m = .ok t := by
  obtain ⟨hl, rfl⟩ := (ofOverrides_eq_ok_iff b).1 ht
  refine (ofOverrides_eq_ok_iff b).2 ⟨fun x hx => hl x ?_, ?_⟩
  · have hx : x ∈ m.filter (·.1 = x.1) := List.mem_filter.2 ⟨hx, decide_eq_true rfl⟩
    rw [h] at hx
    exact (List.mem_filter.1 hx).1
  · have hp : last? m = last? l := funext fun p => by rw [last?, h, last?]
    rw [replaced, replaced, hp]

end PhraseTable

theorem Settings.table_eq (s : Settings) : s.table = (do
    let b ← s.baseDialect
    let l ← s.phrases.mapM override
    (PhraseTable.ofOverrides b l).mapError .invalidPhrase) := by
  rw [table]
  refine bind_congr fun b => bind_congr fun l => ?_
  cases PhraseTable.ofOverrides b l <;> rfl

theorem Settings.exists_ofOverrides {s : Settings} {t : PhraseTable} (h : s.table = .ok t) :
    ∃ b l, PhraseTable.ofOverrides b l = .ok t := by
  rw [table_eq] at h
  obtain ⟨b, -, h⟩ := exists_of_bind_eq_ok h
  obtain ⟨l, -, h⟩ := exists_of_bind_eq_ok h
  exact ⟨b, l, mapError_eq_ok_iff.1 h⟩

/-- A table is built exactly if each template suits its phrase, and if not, the error is that of the
first one that does not. Each phrase then has the template that is given last for it, or that of the
base, whatever the order of the templates for others. A table that is built passes the check of
dialects, so that a command that has the table of its settings goes on with it. -/
theorem PhraseTable.ofOverrides_last (b : Builtin) (l : List (Phrase × String)) :
    ((∃ t, ofOverrides b l = .ok t) ↔ ∀ x ∈ l, x.1.Suits x.2) ∧
    (∀ e, ofOverrides b l = .error e ↔ ∃ before x after, l = before ++ x :: after ∧
      (∀ y ∈ before, y.1.Suits y.2) ∧ ¬ x.1.Suits x.2 ∧ e = .invalidPhrase x.1 x.2) ∧
    (∀ t, ofOverrides b l = .ok t →
      t.base = b ∧
      (∀ p, t.phrase p = (last? l p).getD (b.template p)) ∧
      (∀ m, (∀ p, m.filter (·.1 = p) = l.filter (·.1 = p)) → ofOverrides b m = .ok t) ∧
      t.dialect.check = .ok ()) ∧
    ∀ s t, Settings.table s = .ok t → CommandLine.dialectOf s = .ok t := by
  refine ⟨?_, fun _ => ofOverrides_eq_error_iff b, fun t ht => ?_, fun s t hs => ?_⟩
  · simp only [ofOverrides_eq_ok_iff, exists_and_left, exists_eq', and_true]
  · obtain ⟨-, rfl⟩ := (ofOverrides_eq_ok_iff b).1 ht
    exact ⟨rfl, phrase_replaced b l, fun m hm => ofOverrides_congr b hm ht, check_dialect ht⟩
  · obtain ⟨b, l, ht⟩ := s.exists_ofOverrides hs
    delta CommandLine.dialectOf
    simp only [hs, check_dialect ht]

/-- An empty template replaces one that is given before it, and a template without a place for the
operand is an error also where another follows. -/
theorem PhraseTable.ofOverrides_last_upper :
    let l := [(Phrase.upper, "ucase(?)"), (.concatExpr, " + "), (.upper, "")]
    (∀ x ∈ l, x.1.Suits x.2) ∧
    (∃ t, ofOverrides .oracle l = .ok t ∧ t.phrase .upper = "" ∧ t.phrase .concatExpr = " + " ∧
      t.phrase .length = Builtin.oracle.template .length ∧ t.dialect.check = .ok () ∧
      ofOverrides .oracle [(.concatExpr, " + "), (.upper, "ucase(?)"), (.upper, "")] = .ok t) ∧
    ofOverrides .oracle (l ++ [(.length, "length()"), (.length, "length(?)")]) =
      .error (.invalidPhrase .length "length()") ∧
    CommandLine.dialectOf .standard = .ok (ofBase .generic) := by
  intro l
  have hl : ∀ x ∈ l, x.1.Suits x.2 := by decide
  have hs : Settings.standard.table = .ok (ofBase .generic) := by
    have hb : Builtin.ofName? Settings.standard.base = some .generic := by decide +kernel
    rw [Settings.table_eq, Settings.baseDialect, hb]
    rfl
  obtain ⟨hok, -, hlast, htable⟩ := ofOverrides_last .oracle l
  obtain ⟨t, ht⟩ := hok.2 hl
  obtain ⟨-, hp, hm, hc⟩ := hlast t ht
  refine ⟨hl, ⟨t, ht, hp _, hp _, hp _, hc, hm _ fun p => ?_⟩, ?_, htable _ _ hs⟩
  · cases p <;> rfl
  · exact ((ofOverrides_last .oracle _).2.1 _).2 ⟨l, _, _, rfl, hl, by decide, rfl⟩

end ColumnSql
