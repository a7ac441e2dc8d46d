import ColumnSql.Proofs.Lexical.Dialect
import ColumnSql.Proofs.Literal.Injection

/-! The arguments of a function in SQL: the texts between the commas that stand outside of quotes
and of inner parentheses. -/

namespace ColumnSql.Lexical

variable (q : Quotes)

/-- whether a comma here stands between arguments, and not in one -/
def State.isBetween (st : State) : Bool := st.mode.isFree && st.depth = 0

/-- The scan of one argument, which has no comma outside of its own quotes and parentheses. -/
def scanArgument : State → List Char → Option State
  | st, [] => some st
  | st, c :: s =>
    if c = ',' ∧ st.isBetween then none else (step q c st).bind fun st => scanArgument st s

/-- The text is one argument: the scan ends outside of all quotes and parentheses, and there it
never meets a comma. -/
def isArgument (s : String) : Bool :=
  (scanArgument q ⟨.outside, 0⟩ s.toList).any State.isBetween

/-- the texts between the commas, if all quotes and parentheses are closed at the end and none is
closed that was not open -/
def splitArguments : State → List Char → Option (List (List Char))
  | st, [] => if st.isBetween then some [[]] else none
  | st, c :: s =>
    if c = ',' ∧ st.isBetween then (splitArguments ⟨.outside, 0⟩ s).map ([] :: ·)
    else (step q c st).bind fun st => (splitArguments st s).map (List.modifyHead (c :: ·))

/-- the arguments of a call, which stand between its first parenthesis and its last character -/
def arguments (call : String) : Option (List String) :=
  match Text.splitFirst ['('] call.toList with
  | none => none
  | some (_, s) =>
    if s.getLast? = some ')' then
      (splitArguments q ⟨.outside, 0⟩ s.dropLast).map fun l => l.map String.ofList
    else none

variable {q}

theorem scanArgument_append (st : State) (a b : List Char) :
    scanArgument q st (a ++ b) = (scanArgument q st a).bind fun st => scanArgument q st b := by
  induction a generalizing st with
  | nil => rfl
  | cons c a ih =>
    rw [List.cons_append, scanArgument, scanArgument]
    split
    · rfl
    · cases step q c st with
      | none => rfl
      | some st => exact ih st

theorem isArgument_iff {s : String} : isArgument q s = true ↔
    ∃ st : State, scanArgument q ⟨.outside, 0⟩ s.toList = some st ∧ st.isBetween = true :=
  Option.any_eq_true ..

theorem splitArguments_append {st st' : State} {a : List Char} (h : scanArgument q st a = some st')
    (b : List Char) :
    splitArguments q st (a ++ b) = (splitArguments q st' b).map (List.modifyHead (a ++ ·)) := by
  induction a generalizing st with
  | nil =>
    cases h
    rw [List.nil_append]
    cases splitArguments q st' b with
    | none => rfl
    | some l => cases l <;> rfl
  | cons c a ih =>
    rw [scanArgument] at h
    split at h
    · cases h
    next hc =>
      obtain ⟨st₁, hs, h⟩ := Option.bind_eq_some_iff.1 h
      rw [List.cons_append, splitArguments, if_neg hc, hs, Option.bind_some, ih h, Option.map_map]
      cases splitArguments q st' b with
      | none => rfl
      | some l => cases l <;> rfl

/-- Arguments with commas between them are split into themselves. -/
theorem splitArguments_join {s : String} {r : List String} (hs : isArgument q s = true)
    (hr : ∀ x ∈ r, isArgument q x = true) :
    splitArguments q ⟨.outside, 0⟩ (s.toList ++ r.flatMap fun x => ',' :: x.toList) =
      some (s.toList :: r.map String.toList) := by
  induction r generalizing s with
  | nil =>
    obtain ⟨st, h, hb⟩ := isArgument_iff.1 hs
    rw [List.flatMap_nil, splitArguments_append h, splitArguments, if_pos hb]
    simp
  | cons x r ih =>
    obtain ⟨st, h, hb⟩ := isArgument_iff.1 hs
    have hx := ih (hr x (List.mem_cons_self ..)) fun y hy => hr y (List.mem_cons_of_mem _ hy)
    rw [splitArguments_append h, List.flatMap_cons, List.cons_append, splitArguments,
      if_pos ⟨rfl, hb⟩, hx]
    simp

theorem scanArgument_plain {s : List Char} (h : Plain s) (hc : ',' ∉ s) (depth : Nat) :
    scanArgument q ⟨.outside, depth⟩ s = some ⟨.outside, depth⟩ := by
  induction s with
  | nil => rfl
  | cons c s ih =>
    rw [List.mem_cons, not_or] at hc
    have hs : step q c ⟨.outside, depth⟩ = some ⟨.outside, depth⟩ :=
      stepOutside_plain (h c (List.mem_cons_self ..)) depth
    rw [scanArgument, if_neg fun h => hc.1 h.1.symm, hs]
    exact ih (fun x hx => h x (List.mem_cons_of_mem _ hx)) hc.2

theorem isArgument_blank (s : String) : isArgument q (" " ++ s) = isArgument q s := by
  rw [isArgument, String.toList_append, scanArgument_append,
    scanArgument_plain (by decide) (by decide)]
  rfl

/-- A call with arguments in it has these arguments, with the blanks after the commas. -/
theorem arguments_call {name : String} (hn : '(' ∉ name.toList) {s : String} {r : List String}
    (hs : isArgument q s = true) (hr : ∀ x ∈ r, isArgument q x = true) :
    arguments q (name ++ "(" ++ s ++ String.join (r.map (", " ++ ·)) ++ ")") =
      some (s :: r.map (" " ++ ·)) := by
  have hj : (String.join (r.map (", " ++ ·))).toList =
      (r.map (" " ++ ·)).flatMap fun x => ',' :: x.toList := by
    simp [String.toList_join, List.flatMap_map]
  have hc : (name ++ "(" ++ s ++ String.join (r.map (", " ++ ·)) ++ ")").toList =
      name.toList ++ '(' :: (s.toList ++ ((r.map (" " ++ ·)).flatMap fun x => ',' :: x.toList) ++
        [')']) := by
    simp only [String.toList_append, hj, List.append_assoc]
    rfl
  have hr : ∀ x ∈ r.map (" " ++ ·), isArgument q x = true := by
    simpa [isArgument_blank] using hr
  rw [arguments, hc, Text.splitFirst_append_cons hn]
  simp only [List.getLast?_concat, List.dropLast_concat, if_true, splitArguments_join hs hr]
  simp

example : arguments standard "f(a, g(b, ')'), 'it''s, c')" =
    some ["a", " g(b, ')')", " 'it''s, c'"] := by decide +kernel

section Literal

open Decimal Calendar

/-- the scan of a template as one argument, with its places open; they are all in quotes -/
def scanTokens (q : Quotes) : State → List Token → Option State
  | st, [] => some st
  | st, .char c :: ts =>
    if c = ',' ∧ st.isBetween then none else (step q c st).bind fun st => scanTokens q st ts
  | _, .part :: _ => none
  | st, .plain :: ts => if st.mode.isFree then none else scanTokens q st ts

theorem scanArgument_plain_inside {s : List Char} (h : Plain s) (k : Kind) (depth : Nat) :
    scanArgument q ⟨.inside k, depth⟩ s = some ⟨.inside k, depth⟩ := by
  induction s with
  | nil => rfl
  | cons c s ih =>
    have hc : c ≠ q.closing k := Quotes.ne_closing_of_isPlain (h c (List.mem_cons_self ..)) k
    rw [scanArgument, if_neg fun h => absurd h.2 Bool.false_ne_true, step, if_neg hc]
    exact ih fun x hx => h x (List.mem_cons_of_mem _ hx)

theorem scanArgument_double (s : List Char) (depth : Nat) :
    scanArgument q ⟨.inside .text, depth⟩ (Text.double '\x27' s) =
      some ⟨.inside .text, depth⟩ := by
  induction s with
  | nil => rfl
  | cons c s ih =>
    rw [Text.double_cons]
    by_cases h : c = '\x27' <;>
      simpa [h, scanArgument, step, Quotes.closing, State.isBetween, Mode.isFree] using ih

/-- The scan of a filled template is that of the template. -/
theorem Fills.scanArgument {ts : List Token} {s : List Char} (h : Fills q ts s) {st st' : State}
    (ht : scanTokens q st ts = some st') : Lexical.scanArgument q st s = some st' := by
  induction h generalizing st with
  | nil => exact ht
  | char c _ ih =>
    rw [scanTokens] at ht
    rw [Lexical.scanArgument]
    split at ht
    · cases ht
    next hc =>
      obtain ⟨st₁, hs, ht⟩ := Option.bind_eq_some_iff.1 ht
      rw [if_neg hc, hs]
      exact ih ht
  | part => cases ht
  | plain hr _ ih =>
    obtain ⟨m, depth⟩ := st
    cases m with
    | inside k =>
      rw [scanArgument_append, scanArgument_plain_inside hr]
      exact ih ht
    | _ => cases ht

theorem scanArgument_textLiteral (s : String) :
    scanArgument q ⟨.outside, 0⟩ (textLiteral s).toList = some ⟨.closing .text, 0⟩ := by
  have ho : step q '\x27' ⟨.outside, 0⟩ = some ⟨.inside .text, 0⟩ := rfl
  rw [textLiteral, Text.quoted, String.toList_ofList, List.cons_append, scanArgument,
    if_neg (by decide), ho, Option.bind_some, scanArgument_append, scanArgument_double]
  rfl

theorem isArgument_quoteText (b : Builtin) (s : String) : isArgument q (b.quoteText s) = true := by
  have ht : isArgument q (textLiteral s) = true :=
    isArgument_iff.2 ⟨_, scanArgument_textLiteral s, rfl⟩
  cases b with
  | sqlServer =>
    change isArgument q (nationalLiteral s) = true
    unfold nationalLiteral
    split
    · exact ht
    · refine isArgument_iff.2 ⟨⟨.closing .text, 0⟩, ?_, rfl⟩
      rw [String.toList_append, scanArgument_append, scanArgument_plain (by decide) (by decide),
        Option.bind_some, scanArgument_textLiteral]
  | _ => exact ht

/-- A constant that is not SQL is one argument as a literal of any type. -/
theorem isArgument_literal (b : Builtin) {v : Value} (hv : v.isRaw = false) (t : DataType) :
    isArgument b.quotes (b.dialect.literal v t) = true := by
  have hs : b.dialect.literal v t = (Literal.form v t).text b.template b.quoteText :=
    Literal.ofValue_eq b.template b.quoteText v t
  have hf := Literal.isOf_form v t
  rw [hs]
  cases h : Literal.form v t with
  | phrase p =>
    rw [h] at hf
    have hp : ∀ p ∈ Literal.constantPhrases, isArgument b.quotes (b.template p) = true := by
      cases b <;> decide +kernel
    exact hp p hf
  | number s =>
    rw [h] at hf
    have hc : ',' ∉ s.toList := fun hc =>
      absurd (numeralChars_of_isDecimal hf.2 ',' hc) (by decide)
    exact isArgument_iff.2 ⟨_, scanArgument_plain (plain_of_isDecimal hf.2) hc 0, rfl⟩
  | quoted s => exact isArgument_quoteText b s
  | moment template pattern x =>
    rw [h] at hf
    obtain ⟨s, hc, hm⟩ := Literal.exists_ofMoment b hf x
    have hp : Plain s := plain_of_class (by decide) hc
    have ht : ∀ x ∈ Literal.momentPhrases,
        (scanTokens b.quotes ⟨.outside, 0⟩
          (openTokens Literal.place 0 (b.template x.1).toList)).any State.isBetween = true := by
      cases b <;> decide +kernel
    obtain ⟨st, ht, hb⟩ := (Option.any_eq_true ..).1 (ht _ hf)
    refine isArgument_iff.2 ⟨st, ?_, hb⟩
    rw [Literal.Form.text, hm, String.toList_ofList]
    exact (fills_replaceFrom hp _ 0 _).scanArgument ht
  | verbatim s =>
    rw [h] at hf
    obtain rfl : v = .raw s := hf
    cases hv

end Literal

end ColumnSql.Lexical
