import ColumnSql.Proofs.Dialect.Overrides

/-! The table of settings. The base is looked up first, then all keys are, in their order, and only
then are the templates checked. Keys that differ by blanks name one phrase, of which the last key
has the say. -/

namespace ColumnSql

namespace Settings

variable {s : Settings} {P : String × String → Prop} {x : String × String} {p : Phrase}

/-- The first of the configured templates, in the order of their keys, of which `P` holds. -/
def IsFirst (s : Settings) (P : String × String → Prop) (x : String × String) : Prop :=
  x ∈ s.phrases ∧ P x ∧ ∀ y ∈ s.phrases, y.1 < x.1 → ¬ P y

def IsLast (s : Settings) (P : String × String → Prop) (x : String × String) : Prop :=
  x ∈ s.phrases ∧ P x ∧ ∀ y ∈ s.phrases, x.1 < y.1 → ¬ P y

theorem isFirst_iff : s.IsFirst P x ↔ ∃ before after, s.phrases = before ++ x :: after ∧
    (∀ y ∈ before, ¬ P y) ∧ P x := by
  constructor
  · rintro ⟨hm, hp, hf⟩
    obtain ⟨before, after, hs⟩ := List.append_of_mem hm
    have ho := hs ▸ s.ordered
    refine ⟨before, after, hs, fun y hy => hf y ?_ ?_, hp⟩
    · exact hs ▸ List.mem_append_left _ hy
    · exact (List.pairwise_append.1 ho).2.2 y hy x (List.mem_cons_self ..)
  · rintro ⟨before, after, hs, hb, hp⟩
    obtain ⟨-, ho, -⟩ := List.pairwise_append.1 (hs ▸ s.ordered)
    refine ⟨by simp [hs], hp, fun y hy hlt => ?_⟩
    rw [hs, List.mem_append, List.mem_cons] at hy
    rcases hy with hy | rfl | hy
    · exact hb y hy
    · exact absurd hlt (String.lt_irrefl _)
    · exact absurd hlt (String.lt_asymm ((List.pairwise_cons.1 ho).1 y hy))

theorem IsLast.exists_split (h : s.IsLast P x) : ∃ before after,
    s.phrases = before ++ x :: after ∧ ∀ y ∈ after, ¬ P y := by
  obtain ⟨hm, -, hl⟩ := h
  obtain ⟨before, after, hs⟩ := List.append_of_mem hm
  obtain ⟨-, ho, -⟩ := List.pairwise_append.1 (hs ▸ s.ordered)
  refine ⟨before, after, hs, fun y hy => hl y ?_ ((List.pairwise_cons.1 ho).1 y hy)⟩
  rw [hs]
  exact List.mem_append_right _ (List.mem_cons_of_mem _ hy)

def named? (x : String × String) : Option (Phrase × String) := (Phrase.ofKey? x.1).map (·, x.2)

def checkKey (x : String × String) : Except SettingsError Unit := (override x).map fun _ => ()

theorem checkKey_eq_ok_iff : checkKey x = .ok () ↔ Phrase.ofKey? x.1 ≠ none := by
  rw [checkKey, override]
  cases Phrase.ofKey? x.1 <;> simp [Except.map]

theorem checkKey_eq_error_iff {e : SettingsError} :
    checkKey x = .error e ↔ Phrase.ofKey? x.1 = none ∧ e = .unknownPhrase x.1 := by
  rw [checkKey, override]
  cases Phrase.ofKey? x.1 <;> simp [Except.map, eq_comm]

/-- All keys are looked up before anything is done with the templates. -/
theorem mapM_override (l : List (String × String)) : l.mapM override = (do
    l.forM checkKey
    return l.filterMap named?) := by
  induction l with
  | nil => rfl
  | cons x l ih =>
    rw [List.mapM_cons, ih]
    change _ = (checkKey x >>= fun _ => l.forM checkKey) >>= _
    cases hx : Phrase.ofKey? x.1 with
    | none => simp only [checkKey, override, hx]; rfl
    | some p =>
      simp only [checkKey, override, hx, List.filterMap_cons, named?, Option.map_some]
      change (_ >>= fun r => pure ((p, x.2) :: r)) = l.forM checkKey >>= _
      rw [bind_assoc]
      simp only [pure_bind]

theorem table_eq_of_passes (s : Settings) : s.table = (do
    let b ← s.baseDialect
    s.phrases.forM checkKey
    (PhraseTable.ofOverrides b (s.phrases.filterMap named?)).mapError .invalidPhrase) := by
  rw [table_eq]
  simp only [mapM_override, bind_assoc, pure_bind]

theorem named?_eq_some (h : Phrase.ofKey? x.1 = some p) : named? x = some (p, x.2) := by
  rw [named?, h, Option.map_some]

theorem eq_of_named?_eq_some {z : Phrase × String} (h : named? x = some z) :
    Phrase.ofKey? x.1 = some z.1 ∧ x.2 = z.2 := by
  obtain ⟨p, hp, rfl⟩ := Option.map_eq_some_iff.1 h
  exact ⟨hp, rfl⟩

def Misfit (x : String × String) : Prop := ∃ p, Phrase.ofKey? x.1 = some p ∧ ¬ p.Suits x.2

theorem exists_suits_iff : (∃ p, Phrase.ofKey? x.1 = some p ∧ p.Suits x.2) ↔
    Phrase.ofKey? x.1 ≠ none ∧ ¬ Misfit x := by
  rw [Misfit]
  cases Phrase.ofKey? x.1 <;> simp

/-- The settings have no dialect, and the error says what is wrong with them. -/
inductive FailsWith (s : Settings) : SettingsError → Prop
  | base : Builtin.ofName? s.base = none → s.FailsWith (.unknownDialect s.base)
  | key {b x} : Builtin.ofName? s.base = some b →
    s.IsFirst (fun y => Phrase.ofKey? y.1 = none) x → s.FailsWith (.unknownPhrase x.1)
  | template {b x p} : Builtin.ofName? s.base = some b →
    (∀ y ∈ s.phrases, Phrase.ofKey? y.1 ≠ none) → s.IsFirst Misfit x →
    Phrase.ofKey? x.1 = some p → s.FailsWith (.invalidPhrase (.invalidPhrase p x.2))

variable {b : Builtin}

theorem baseDialect_eq_ok_iff : s.baseDialect = .ok b ↔ Builtin.ofName? s.base = some b := by
  rw [baseDialect]
  cases Builtin.ofName? s.base <;> simp

theorem baseDialect_eq_error_iff {e : SettingsError} : s.baseDialect = .error e ↔
    Builtin.ofName? s.base = none ∧ e = .unknownDialect s.base := by
  rw [baseDialect]
  cases Builtin.ofName? s.base <;> simp [eq_comm]

theorem forM_checkKey_eq_ok_iff {u : Unit} :
    s.phrases.forM checkKey = .ok u ↔ ∀ y ∈ s.phrases, Phrase.ofKey? y.1 ≠ none := by
  simp only [← checkKey_eq_ok_iff]
  exact forM_check_eq_ok_iff

theorem forM_checkKey_eq_error_iff {e : SettingsError} : s.phrases.forM checkKey = .error e ↔
    ∃ x, s.IsFirst (fun y => Phrase.ofKey? y.1 = none) x ∧ e = .unknownPhrase x.1 := by
  simp only [forM_check_eq_error_iff, checkKey_eq_ok_iff, checkKey_eq_error_iff, isFirst_iff]
  constructor
  · rintro ⟨before, x, after, hs, hb, hx, he⟩
    exact ⟨x, ⟨before, after, hs, hb, hx⟩, he⟩
  · rintro ⟨x, ⟨before, after, hs, hb, hx⟩, he⟩
    exact ⟨before, x, after, hs, hb, hx, he⟩

theorem suits_named_iff {l : List (String × String)} :
    (∀ z ∈ l.filterMap named?, z.1.Suits z.2) ↔ ∀ x ∈ l, ¬ Misfit x := by
  constructor
  · rintro h x hx ⟨p, hp, hn⟩
    exact hn (h (p, x.2) (List.mem_filterMap.2 ⟨x, hx, named?_eq_some hp⟩))
  · intro h z hz
    obtain ⟨x, hx, hz⟩ := List.mem_filterMap.1 hz
    obtain ⟨hp, ht⟩ := eq_of_named?_eq_some hz
    exact Decidable.not_not.1 fun hn => h x hx ⟨z.1, hp, ht ▸ hn⟩

theorem ofOverrides_named_eq_error_iff {e : ExprError} :
    PhraseTable.ofOverrides b (s.phrases.filterMap named?) = .error e ↔
      ∃ x p, s.IsFirst Misfit x ∧ Phrase.ofKey? x.1 = some p ∧ e = .invalidPhrase p x.2 := by
  simp only [PhraseTable.ofOverrides_eq_error_iff, isFirst_iff]
  constructor
  · rintro ⟨before, z, after, hs, hb, hn, rfl⟩
    obtain ⟨l, r, hlr, rfl, hr⟩ := List.filterMap_eq_append_iff.1 hs
    obtain ⟨m, x, r, rfl, hm, hx, rfl⟩ := List.filterMap_eq_cons_iff.1 hr
    obtain ⟨hp, ht⟩ := eq_of_named?_eq_some hx
    have hlr : s.phrases = l ++ m ++ x :: r := by rw [hlr, List.append_assoc]
    have hl := suits_named_iff.1 hb
    refine ⟨x, z.1, ⟨l ++ m, r, hlr, fun y hy => ?_, z.1, hp, ht ▸ hn⟩, hp, ht ▸ rfl⟩
    rcases List.mem_append.1 hy with hy | hy
    · exact hl y hy
    -- the keys between name no phrase
    · rintro ⟨q, hq, -⟩
      cases (named?_eq_some hq).symm.trans (hm y hy)
  · rintro ⟨x, p, ⟨before, after, hs, hb, q, hq, hn⟩, hp, rfl⟩
    obtain rfl : q = p := Option.some.inj (hq.symm.trans hp)
    refine ⟨before.filterMap named?, (q, x.2), after.filterMap named?, ?_,
      suits_named_iff.2 hb, hn, rfl⟩
    rw [hs, List.filterMap_append, List.filterMap_cons, named?_eq_some hq]

theorem table_eq_error_iff {e : SettingsError} : s.table = .error e ↔ s.FailsWith e := by
  simp only [table_eq_of_passes, bind_eq_error_iff, mapError_eq_error_iff, baseDialect_eq_ok_iff,
    baseDialect_eq_error_iff, forM_checkKey_eq_ok_iff, forM_checkKey_eq_error_iff,
    ofOverrides_named_eq_error_iff]
  constructor
  · rintro (⟨hb, rfl⟩ | ⟨b, hb, ⟨x, hx, rfl⟩ | ⟨_, hk, _, ⟨x, p, hx, hp, rfl⟩, rfl⟩⟩)
    · exact .base hb
    · exact .key hb hx
    · exact .template hb hk hx hp
  · rintro (hb | ⟨hb, hx⟩ | ⟨hb, hk, hx, hp⟩)
    · exact .inl ⟨hb, rfl⟩
    · exact .inr ⟨_, hb, .inl ⟨_, hx, rfl⟩⟩
    · exact .inr ⟨_, hb, .inr ⟨(), hk, _, ⟨_, _, hx, hp, rfl⟩, rfl⟩⟩

theorem table_eq_ok_iff {t : PhraseTable} : s.table = .ok t ↔
    ∃ b, Builtin.ofName? s.base = some b ∧
      (∀ x ∈ s.phrases, ∃ p, Phrase.ofKey? x.1 = some p ∧ p.Suits x.2) ∧
      (PhraseTable.ofBase b).replaced (s.phrases.filterMap named?) = t := by
  simp only [table_eq_of_passes, bind_eq_ok_iff, mapError_eq_ok_iff, baseDialect_eq_ok_iff,
    forM_checkKey_eq_ok_iff, PhraseTable.ofOverrides_eq_ok_iff, suits_named_iff, exists_suits_iff]
  refine exists_congr fun b => and_congr_right fun _ => ⟨?_, ?_⟩
  · rintro ⟨-, hk, hm, ht⟩
    exact ⟨fun x hx => ⟨hk x hx, hm x hx⟩, ht⟩
  · rintro ⟨h, ht⟩
    exact ⟨(), fun x hx => (h x hx).1, fun x hx => (h x hx).2, ht⟩

theorem last?_named_eq_none {l : List (String × String)}
    (h : ∀ x ∈ l, Phrase.ofKey? x.1 ≠ some p) :
    PhraseTable.last? (l.filterMap named?) p = none := by
  refine PhraseTable.last?_eq_none fun z hz => ?_
  obtain ⟨x, hx, hz⟩ := List.mem_filterMap.1 hz
  rintro rfl
  exact h x hx (eq_of_named?_eq_some hz).1

theorem last?_named (h : s.IsLast (fun y => Phrase.ofKey? y.1 = some p) x) :
    PhraseTable.last? (s.phrases.filterMap named?) p = some x.2 := by
  obtain ⟨before, after, hs, ha⟩ := h.exists_split
  rw [hs, List.filterMap_append, List.filterMap_cons, named?_eq_some h.2.1]
  simp [PhraseTable.last?_append, PhraseTable.last?_cons, last?_named_eq_none ha]

/-- Settings have a dialect exactly if their base is known, and each key names a phrase that the
template suits. If not, the error is that of the base, or else of the first key in order that names
no phrase, whatever the templates are, or else of the first template that does not suit. In the
table, each phrase that keys name has the template of the last of them in order, and each other one
that of the base. -/
theorem table_of_settings (s : Settings) :
    ((∃ t, s.table = .ok t) ↔ (∃ b, Builtin.ofName? s.base = some b) ∧
      ∀ x ∈ s.phrases, ∃ p, Phrase.ofKey? x.1 = some p ∧ p.Suits x.2) ∧
    (∀ e, s.table = .error e ↔ s.FailsWith e) ∧
    ∀ t, s.table = .ok t → Builtin.ofName? s.base = some t.base ∧ ∀ p,
      (∀ x, s.IsLast (fun y => Phrase.ofKey? y.1 = some p) x → t.phrase p = x.2) ∧
      ((∀ x ∈ s.phrases, Phrase.ofKey? x.1 ≠ some p) → t.phrase p = t.base.template p) := by
  refine ⟨?_, fun e => table_eq_error_iff, fun t ht => ?_⟩
  · simp only [table_eq_ok_iff]
    constructor
    · rintro ⟨_, b, hb, hs, -⟩
      exact ⟨⟨b, hb⟩, hs⟩
    · rintro ⟨⟨b, hb⟩, hs⟩
      exact ⟨_, b, hb, hs, rfl⟩
  · obtain ⟨b, hb, -, rfl⟩ := table_eq_ok_iff.1 ht
    refine ⟨hb, fun p => ⟨fun x hx => ?_, fun hn => ?_⟩⟩
    · rw [PhraseTable.phrase_replaced, last?_named hx, Option.getD_some]
    · rw [PhraseTable.phrase_replaced, last?_named_eq_none hn]
      rfl

/-- A key that names no phrase is the error also where a template before it does not suit. Of two
keys for one phrase the later one in order has its template in effect. -/
theorem table_of_settings_order :
    let s (phrases) (ordered) : Settings := ⟨" Oracle", phrases, ordered, false, true, "warn"⟩
    let unknown := s [("func_lower", "lower()"), ("func_soundex", "soundex(?)")] (by decide)
    let twice := s [("func_lower", "lower(?)"), ("func_lower ", "lcase(?)")] (by decide)
    unknown.table = .error (.unknownPhrase "func_soundex") ∧
      ∃ t, twice.table = .ok t ∧ t.phrase .lower = "lcase(?)" ∧
        t.phrase .coalesce = Builtin.oracle.template .coalesce := by
  intro s unknown twice
  have hb : Builtin.ofName? " Oracle" = some .oracle := by decide +kernel
  have hl : Phrase.ofKey? "func_lower" = some .lower := by decide +kernel
  have hn : Phrase.ofKey? "func_lower " = some .lower := by decide +kernel
  have hx : Phrase.ofKey? "func_soundex" = none := by decide +kernel
  constructor
  · have hf : unknown.IsFirst (fun y => Phrase.ofKey? y.1 = none)
        ("func_soundex", "soundex(?)") := by
      refine ⟨List.mem_cons_of_mem _ (List.mem_cons_self ..), hx, ?_⟩
      simp only [unknown, s, List.forall_mem_cons, hl]
      exact ⟨fun _ => nofun, fun h => absurd h (String.lt_irrefl _), nofun⟩
    have hbase : Builtin.ofName? unknown.base = some .oracle := hb
    exact ((table_of_settings unknown).2.1 _).2 (.key hbase hf)
  · obtain ⟨hok, -, ht⟩ := table_of_settings twice
    have hs : ∀ x ∈ twice.phrases, ∃ p, Phrase.ofKey? x.1 = some p ∧ p.Suits x.2 := by
      simp only [twice, s, List.forall_mem_cons, hl, hn]
      exact ⟨⟨.lower, rfl, by decide⟩, ⟨.lower, rfl, by decide⟩, nofun⟩
    obtain ⟨t, htable⟩ := hok.2 ⟨⟨.oracle, hb⟩, hs⟩
    obtain ⟨hbase, hp⟩ := ht t htable
    have hlast : twice.IsLast (fun y => Phrase.ofKey? y.1 = some .lower)
        ("func_lower ", "lcase(?)") := by
      refine ⟨List.mem_cons_of_mem _ (List.mem_cons_self ..), hn, ?_⟩
      simp only [twice, s, List.forall_mem_cons]
      exact ⟨fun h => absurd h (by decide), fun h => absurd h (String.lt_irrefl _), nofun⟩
    refine ⟨t, htable, (hp .lower).1 _ hlast, ?_⟩
    rw [Option.some.inj (hb.symm.trans hbase), (hp .coalesce).2]
    simp only [twice, s, List.forall_mem_cons, hl, hn]
    exact ⟨nofun, nofun, nofun⟩

/-- A key with a blank after it names the phrase of the key without, and comes after that: the
template for the bare key is configured, but it is not in effect. -/
theorem table_of_key_with_blank :
    let s : Settings := ⟨"generic", [("func_upper", "ucase(?)"), ("func_upper ", "nls_upper(?)")],
      by decide, false, true, "warn"⟩
    ∃ t, s.table = .ok t ∧ t.phrase .upper = "nls_upper(?)" ∧
      ¬ ∀ x ∈ s.phrases, ∀ p, Phrase.ofKey? x.1 = some p → t.phrase p = x.2 := by
  intro s
  have hb : Builtin.ofName? "generic" = some .generic := by decide +kernel
  have hu : Phrase.ofKey? "func_upper" = some .upper := by decide +kernel
  have hn : Phrase.ofKey? "func_upper " = some .upper := by decide +kernel
  have hs : ∀ x ∈ s.phrases, ∃ p, Phrase.ofKey? x.1 = some p ∧ p.Suits x.2 := by
    simp only [s, List.forall_mem_cons, hu, hn]
    exact ⟨⟨.upper, rfl, by decide⟩, ⟨.upper, rfl, by decide⟩, nofun⟩
  have hp : ((PhraseTable.ofBase .generic).replaced (s.phrases.filterMap named?)).phrase .upper =
      "nls_upper(?)" := by
    rw [PhraseTable.phrase_replaced]
    simp [s, named?, hu, hn, PhraseTable.last?]
  refine ⟨_, table_eq_ok_iff.2 ⟨.generic, hb, hs, rfl⟩, hp, fun h => ?_⟩
  have hf := h ("func_upper", "ucase(?)") (List.mem_cons_self ..) .upper hu
  rw [hp] at hf
  exact absurd hf (by decide)

end Settings

end ColumnSql
