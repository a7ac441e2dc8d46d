import ColumnSql.Proofs.Expr.Sql
import ColumnSql.Proofs.Lexical.Scan

/-! Templates that are balanced whatever balanced texts are put in them. A template is tracked once
for all dialects, with its places still open: after such a place the scan is taken to be outside of
quotes, though it may have just left some. -/

namespace ColumnSql.Lexical

inductive Token
  | char (c : Char)
  | part
  /-- the place of plain characters, which may be in quotes -/
  | plain

/-- the text is the template with texts in its places -/
inductive Fills (q : Quotes) : List Token → List Char → Prop
  | nil : Fills q [] []
  | char (c : Char) {ts s} : Fills q ts s → Fills q (.char c :: ts) (c :: s)
  | part {r : String} {ts s} : Balanced q r → Fills q ts s → Fills q (.part :: ts) (r.toList ++ s)
  | plain {r : List Char} {ts s} : Plain r → Fills q ts s → Fills q (.plain :: ts) (r ++ s)

/-- the quotes of a dialect; templates have no quotes of names, so any will do -/
def standard : Quotes := ⟨'"', '"', by decide, by decide⟩

def track : State → List Token → Option State
  | st, [] => some st
  | st, .char c :: ts =>
    if c ∈ nameQuotes then none else (step standard c st).bind fun st => track st ts
  | st, .part :: ts => if st.mode.isFree then track ⟨.outside, st.depth⟩ ts else none
  | st, .plain :: ts => track (if st.mode.isFree then ⟨.outside, st.depth⟩ else st) ts

/-- The template is balanced as far as can be told with its places open. -/
def accepts (ts : List Token) : Bool :=
  match track ⟨.outside, 0⟩ ts with
  | some st => st.mode.isFree && st.depth = 0
  | none => false

variable {q : Quotes}

/-- Characters that quote no names are alike to all dialects. -/
theorem step_congr {c : Char} (h : c ∉ nameQuotes) (q r : Quotes) (st : State) :
    step q c st = step r c st := by
  have ho : stepOutside q c = stepOutside r c := by
    funext depth
    simp only [stepOutside, if_neg (Quotes.ne_left h)]
  obtain ⟨m, depth⟩ := st
  cases m with
  | outside => exact congrFun ho depth
  | inside k =>
    cases k with
    | text => rfl
    | name => simp [step, Quotes.closing, Quotes.ne_right h]
  | closing k =>
    cases k with
    | text =>
      rw [step, step, ho]
      rfl
    | name => simp [step, Quotes.closing, Quotes.ne_right h, ho]

/-- `b` stands in the same quotes as `a`, or both in none, with `n` more open parentheses. -/
structure Follows (a b : State) (n : Nat) : Prop where
  mode : a.mode = b.mode ∨ a.mode.isFree = true ∧ b.mode.isFree = true
  depth : b.depth = a.depth + n

namespace Follows

variable {a b c : State} {n : Nat}

theorem isFree (h : Follows a b n) : a.mode.isFree = b.mode.isFree := by
  rcases h.mode with hm | ⟨ha, hb⟩
  · rw [hm]
  · rw [ha, hb]

theorem outside (h : Follows a b n) {m : Mode} (hm : m.isFree = true) :
    Follows ⟨.outside, a.depth⟩ ⟨m, b.depth⟩ n := ⟨.inr ⟨rfl, hm⟩, h.depth⟩

theorem step {x : Char} (h : Follows a b n) (hx : x ∉ nameQuotes)
    (hs : step standard x a = some c) :
    ∃ d, Lexical.step q x b = some d ∧ Follows c d n := by
  rw [step_congr hx standard q] at hs
  have hr : x = q.right → x = q.left := fun h => absurd h (Quotes.ne_right hx)
  obtain ⟨m, depth⟩ := a
  obtain ⟨m', depth'⟩ := b
  obtain rfl : depth' = depth + n := h.depth
  by_cases hf : m.isFree = true
  · have hf' : m'.isFree = true := h.isFree.symm.trans hf
    rw [step_of_isFree hr hf] at hs
    rw [step_of_isFree hr hf']
    exact ⟨_, stepOutside_add hs n, .inl rfl, rfl⟩
  · have hm : m = m' := h.mode.resolve_right fun h => hf h.1
    subst hm
    cases m with
    | inside k =>
      cases hs
      exact ⟨_, rfl, .inl rfl, rfl⟩
    | _ => exact absurd rfl hf

end Follows

theorem scan_plain_inside {s : List Char} (h : Plain s) (k : Kind) (depth : Nat) :
    scan q ⟨.inside k, depth⟩ s = some ⟨.inside k, depth⟩ := by
  induction s with
  | nil => rfl
  | cons c s ih =>
    have hc : c ≠ q.closing k := Quotes.ne_closing_of_isPlain (h c (List.mem_cons_self ..)) k
    rw [scan, step, if_neg hc]
    exact ih fun x hx => h x (List.mem_cons_of_mem _ hx)

namespace Fills

theorem append {ts us : List Token} {a b : List Char} (ha : Fills q ts a) (hb : Fills q us b) :
    Fills q (ts ++ us) (a ++ b) := by
  induction ha with
  | nil => exact hb
  | char c _ ih => exact .char c ih
  | part hr _ ih =>
    rw [List.append_assoc]
    exact .part hr ih
  | plain hr _ ih =>
    rw [List.append_assoc]
    exact .plain hr ih

theorem chars (s : List Char) : Fills q (s.map .char) s := by
  induction s with
  | nil => exact .nil
  | cons c s ih => exact .char c ih

/-- The scan of a filled template follows that of the template. -/
theorem scan {ts : List Token} {s : List Char} (h : Fills q ts s) {a b c : State} {n : Nat}
    (hf : Follows a b n) (ht : track a ts = some c) :
    ∃ d, Lexical.scan q b s = some d ∧ Follows c d n := by
  induction h generalizing a b with
  | nil =>
    cases ht
    exact ⟨b, rfl, hf⟩
  | char x _ ih =>
    rw [track] at ht
    split at ht
    · cases ht
    next hx =>
      obtain ⟨e, he, ht⟩ := Option.bind_eq_some_iff.1 ht
      obtain ⟨f, hs, hf⟩ := hf.step hx he
      rw [Lexical.scan, hs]
      exact ih hf ht
  | part hr _ ih =>
    rw [track] at ht
    split at ht
    next ha =>
      obtain ⟨m, hm, hs⟩ := hr b.mode b.depth (hf.isFree.symm.trans ha)
      rw [scan_append, hs]
      exact ih (hf.outside hm) ht
    · cases ht
  | plain hr _ ih =>
    rw [track] at ht
    rw [scan_append]
    split at ht
    next ha =>
      obtain ⟨m, hm, hs⟩ := scan_plain (q := q) hr (hf.isFree.symm.trans ha) b.depth
      rw [hs]
      exact ih (hf.outside hm) ht
    next ha =>
      obtain ⟨m, depth⟩ := b
      have hm : a.mode = m := hf.mode.resolve_right fun h => ha h.1
      cases m with
      | inside k =>
        rw [scan_plain_inside hr k depth]
        exact ih hf ht
      | _ => exact absurd (hm ▸ rfl) ha

theorem balanced {ts : List Token} {s : List Char} (h : Fills q ts s)
    (ha : accepts ts = true) : Balanced q (String.ofList s) := by
  intro m depth hm
  rw [accepts] at ha
  split at ha
  next st ht =>
    rw [Bool.and_eq_true, decide_eq_true_eq] at ha
    have hf : Follows ⟨.outside, 0⟩ ⟨m, depth⟩ depth := ⟨.inr ⟨rfl, hm⟩, (Nat.zero_add _).symm⟩
    obtain ⟨d, hd, hf⟩ := h.scan hf ht
    refine ⟨d.mode, hf.isFree.symm.trans ha.1, ?_⟩
    rw [String.toList_ofList, hd]
    have hdepth : d.depth = depth := by rw [hf.depth, ha.2, Nat.zero_add]
    rw [← hdepth]
  · cases ha

end Fills

def templateTokens (s : List Char) : List Token :=
  (Template.pieces s).map fun
    | .verbatim c => .char c
    | .parameter _ => .part

def functionTokens (s : List Char) : List Token :=
  let parts := (Text.splitFirst ['?'] s).getD (s, [])
  templateTokens parts.1 ++ .part :: templateTokens parts.2

/-- the template of a concatenation; one without places stands between the two sides -/
def concatTokens (s : List Char) : List Token :=
  match Text.splitFirst ['?'] s with
  | none => s.map .char
  | some (before, rest) =>
    match Text.splitFirst ['\x7b', '0', '\x7d'] rest with
    | none => before.map .char ++ .part :: (rest.map .char ++ [.part])
    | some (middle, after) =>
      before.map .char ++ .part :: (middle.map .char ++ .part :: after.map .char)

def concatAllTokens (s : List Char) : List Token :=
  match Text.splitFirst ['?'] s with
  | none => s.map .char
  | some (before, after) => before.map .char ++ .part :: .part :: after.map .char

/-- a template in whose `p` plain characters are put, after `n` characters to be passed over -/
def openTokens (p : List Char) : Nat → List Char → List Token
  | _, [] => []
  | n + 1, _ :: s => openTokens p n s
  | 0, c :: s =>
    if p.isPrefixOf (c :: s) then .plain :: openTokens p (p.length - 1) s
    else .char c :: openTokens p 0 s

theorem fills_replaceFrom {r : List Char} (hr : Plain r) (p : List Char) (n : Nat)
    (s : List Char) : Fills q (openTokens p n s) (Text.replaceFrom p r n s) := by
  induction s generalizing n with
  | nil => cases n <;> exact .nil
  | cons c s ih =>
    cases n with
    | succ n => exact ih n
    | zero =>
      rw [openTokens, Text.replaceFrom]
      split
      · exact .plain hr (ih _)
      · exact .char c (ih 0)

theorem fills_substitute {arg : Template.Placeholder → String} (ha : ∀ p, Balanced q (arg p))
    (s : List Char) : Fills q (templateTokens s) (Template.substitute arg s).toList := by
  rw [templateTokens, Template.toList_substitute]
  induction Template.pieces s with
  | nil => exact .nil
  | cons x r ih =>
    cases x with
    | verbatim c => exact .char c ih
    | parameter p => exact .part (ha p) ih

namespace Balanced

theorem ofChars {s : String} (h : accepts (s.toList.map .char) = true) : Balanced q s := by
  have := (Fills.chars (q := q) s.toList).balanced h
  rwa [String.ofList_toList] at this

theorem substitute {arg : Template.Placeholder → String} (ha : ∀ p, Balanced q (arg p))
    {s : List Char} (h : accepts (templateTokens s) = true) :
    Balanced q (Template.substitute arg s) := by
  have := (fills_substitute ha s).balanced h
  rwa [String.ofList_toList] at this

theorem replaceAll {s : List Char} {p r : List Char} (hr : Plain r)
    (h : accepts (openTokens p 0 s) = true) :
    Balanced q (String.ofList (Text.replaceAll p r s)) :=
  (fills_replaceFrom hr p 0 s).balanced h

theorem filled {template : String} {arg : Template.Placeholder → String} {operand : String}
    (h : accepts (functionTokens template.toList) = true) (ha : ∀ p, Balanced q (arg p))
    (ho : Balanced q operand) : Balanced q (Template.filled template arg operand) := by
  have := ((fills_substitute ha _).append (.part ho (fills_substitute ha _))).balanced h
  rw [String.ofList_append, String.ofList_append] at this
  rw [Template.filled, Template.parts]
  simpa only [String.ofList_toList, ← String.append_assoc] using this

theorem concatenated {template : String} {left : String} {right : String → String}
    (h : accepts (concatTokens template.toList) = true) (hl : Balanced q left)
    (hr : ∀ connector, Balanced q connector → Balanced q (right connector)) :
    Balanced q (Template.concatenated template left right) := by
  have hc : Balanced q (right ", ") := hr _ (.ofPlain (by decide))
  unfold Template.concatenated
  revert h
  unfold concatTokens
  cases Text.splitFirst ['?'] template.toList with
  | none =>
    intro h
    have ht : Balanced q template := .ofChars h
    exact (hl.append ht).append (hr template ht)
  | some x =>
    dsimp only
    cases Text.splitFirst ['\x7b', '0', '\x7d'] x.2 with
    | none =>
      intro h
      have := ((Fills.chars x.1).append
        (.part hl ((Fills.chars x.2).append (.part hc .nil)))).balanced h
      simpa [String.ofList_append, String.append_assoc] using this
    | some y =>
      intro h
      have := ((Fills.chars x.1).append
        (.part hl ((Fills.chars y.1).append (.part hc (.chars y.2))))).balanced h
      simpa [String.ofList_append, String.append_assoc] using this

theorem concatenatedAll {template : String} {first : String} {others : String → String}
    (h : accepts (concatAllTokens template.toList) = true) (hf : Balanced q first)
    (ho : ∀ connector, Balanced q connector → Balanced q (others connector)) :
    Balanced q (Template.concatenatedAll template first others) := by
  have hc : Balanced q (others ", ") := ho _ (.ofPlain (by decide))
  unfold Template.concatenatedAll
  revert h
  unfold concatAllTokens
  cases Text.splitFirst ['?'] template.toList with
  | none => exact fun h => hf.append (ho template (.ofChars h))
  | some x =>
    intro h
    have := ((Fills.chars x.1).append (.part hf (.part hc (.chars x.2)))).balanced h
    simpa [String.ofList_append, String.append_assoc] using this

end Balanced

end ColumnSql.Lexical
