import ColumnSql.Proofs.Lexical.Symbols

/-! Arithmetic read back from SQL. The symbols are read from left to right: `*`, `/` and `%` bind
tighter than `+` and `-`, and all of them to the left. -/

namespace ColumnSql.Lexical

inductive Term
  | word (w : List Char)
  | apply (m : Mark) (left right : Term)
deriving DecidableEq

namespace Term

/-- the operator that binds the least -/
def root : Term → Option Mark
  | word _ => none
  | apply m _ _ => some m

def isSum (t : Term) : Bool := t.root.any Mark.isSum

theorem exists_root_of_isSum {t : Term} (h : t.isSum = true) :
    ∃ op, t.root = some (.arith op) := by
  obtain ⟨m, hm, hs⟩ := (Option.any_eq_true ..).1 h
  cases m with
  | arith op => exact ⟨op, hm⟩
  | modulo => cases hs

end Term

/-- what stands before a term in the same parentheses: a sum, and in it a product, each without its
right side -/
structure Level where
  sum : Term → Term
  product : Term → Term

namespace Level

def start : Level := ⟨id, id⟩

def finish (l : Level) (t : Term) : Term := l.sum (l.product t)

def next (l : Level) (t : Term) (m : Mark) : Level :=
  if m.isSum then ⟨.apply m (l.finish t), id⟩ else ⟨l.sum, .apply m (l.product t)⟩

end Level

/-- an open parenthesis, with what is before it -/
inductive Frame
  | group (l : Level)
  | left (l : Level)
  | right (l : Level) (left : Term)

structure Reader where
  frames : List Frame
  level : Level
  /-- the term that has been read, before an operator or a closing parenthesis -/
  last : Option Term

namespace Reader

def start : Reader := ⟨[], .start, none⟩

/-- The only function is that for a remainder. -/
def step (r : Reader) : Symbol → Option Reader
  | .word w =>
    match r.last with
    | none => some ⟨r.frames, r.level, some (.word w)⟩
    | some _ => none
  | .mark m => r.last.map fun t => ⟨r.frames, r.level.next t m, none⟩
  | .opening =>
    match r.last with
    | none => some ⟨.group r.level :: r.frames, .start, none⟩
    | some t =>
      if t = .word ['m', 'o', 'd'] then some ⟨.left r.level :: r.frames, .start, none⟩ else none
  | .comma =>
    match r.frames, r.last with
    | .left l :: fs, some t => some ⟨.right l (r.level.finish t) :: fs, .start, none⟩
    | _, _ => none
  | .closing =>
    match r.frames, r.last with
    | .group l :: fs, some t => some ⟨fs, l, some (r.level.finish t)⟩
    | .right l left :: fs, some t => some ⟨fs, l, some (.apply .modulo left (r.level.finish t))⟩
    | _, _ => none

def run (r : Reader) (l : List Symbol) : Option Reader := l.foldlM step r

def result? : Reader → Option Term
  | ⟨[], l, some t⟩ => some (l.finish t)
  | _ => none

theorem run_append (r : Reader) (a b : List Symbol) :
    r.run (a ++ b) = (r.run a).bind fun r => r.run b := List.foldlM_append ..

end Reader

def read (q : Quotes) (s : String) : Option Term :=
  (cut q s.toList).bind fun l => (Reader.start.run l).bind Reader.result?

example : read ⟨'[', ']', by decide, by decide⟩ "(a-2*[b]]) % c]-d) % mod(e, 3)+f" =
    some (.apply (.arith .plus)
      (.apply .modulo
        (.apply (.arith .minus)
          (.apply (.arith .minus) (.word ['a'])
            (.apply (.arith .multiply) (.word ['2']) (.word "[b]]) % c]".toList)))
          (.word ['d']))
        (.apply .modulo (.word ['e']) (.word ['3'])))
      (.word ['f'])) := by
  decide +kernel

/-- words with operators between them -/
structure Chain where
  first : List Char
  others : List (Operator × List Char)

namespace Chain

def symbols (c : Chain) : List Symbol :=
  .word c.first :: c.others.flatMap fun x => [.mark (.arith x.1), .word x.2]

def ofWord (w : List Char) : Chain := ⟨w, []⟩

def append (c : Chain) (op : Operator) (d : Chain) : Chain :=
  ⟨c.first, c.others ++ (op, d.first) :: d.others⟩

theorem symbols_append (c : Chain) (op : Operator) (d : Chain) :
    (c.append op d).symbols = c.symbols ++ [.mark (.arith op)] ++ d.symbols := by
  simp [symbols, append]

end Chain

theorem IsWord.cuts_chain {q : Quotes} {s : List Char} (h : IsWord q s) :
    Cuts q s (Chain.ofWord s).symbols := h.cuts

namespace Level

def through (l : Level) (t : Term) : List (Operator × List Char) → Level × Term
  | [] => (l, t)
  | x :: r => (l.next t (.arith x.1)).through (.word x.2) r

def reach (l : Level) (c : Chain) : Level × Term := l.through (.word c.first) c.others

def complete (l : Level) (c : Chain) : Term := (l.reach c).1.finish (l.reach c).2

/-- There is no sum before the term, or the sum is around all that follows. The product is none. -/
structure IsSound (l : Level) : Prop where
  sum : l.sum = id ∨ ∀ t, (l.sum t).isSum = true
  product : ∀ t, t.isSum = false → (l.product t).isSum = false

variable {l : Level}

theorem isSound_start : start.IsSound := ⟨.inl rfl, fun _ h => h⟩

theorem next_isSum {m : Mark} (h : m.isSum = true) (t : Term) :
    l.next t m = ⟨.apply m (l.finish t), id⟩ := if_pos h

theorem next_not_isSum {m : Mark} (h : ¬ m.isSum = true) (t : Term) :
    l.next t m = ⟨l.sum, .apply m (l.product t)⟩ := if_neg h

theorem IsSound.next (h : l.IsSound) (t : Term) (m : Mark) : (l.next t m).IsSound := by
  by_cases hm : m.isSum = true
  · rw [next_isSum hm]
    exact ⟨.inr fun _ => hm, fun _ h => h⟩
  · rw [next_not_isSum hm]
    exact ⟨h.sum, fun _ _ => by simpa [Term.isSum, Term.root] using hm⟩

theorem IsSound.root_finish_next (h : l.IsSound) (t : Term) (op : Operator) (x : Term) :
    ∃ o, ((l.next t (.arith op)).finish x).root = some (.arith o) := by
  by_cases hm : (Mark.arith op).isSum = true
  · rw [next_isSum hm]
    exact ⟨op, rfl⟩
  · rw [next_not_isSum hm]
    -- the product is inside of the sum, so that the operator is at the root only without one
    obtain hs | hs := h.sum
    · exact ⟨op, by rw [finish, hs]; rfl⟩
    · exact Term.exists_root_of_isSum (hs _)

theorem IsSound.through (h : l.IsSound) {t : Term} (ht : t.isSum = false)
    (r : List (Operator × List Char)) :
    (l.through t r).1.IsSound ∧ (l.through t r).2.isSum = false := by
  induction r generalizing l t with
  | nil => exact ⟨h, ht⟩
  | cons x r ih => exact ih (h.next t _) rfl

theorem IsSound.root_through (h : l.IsSound) (t : Term) {r : List (Operator × List Char)}
    (hr : r ≠ []) :
    ∃ o, ((l.through t r).1.finish (l.through t r).2).root = some (.arith o) := by
  induction r generalizing l t with
  | nil => exact absurd rfl hr
  | cons x r ih =>
    cases r with
    | nil => exact h.root_finish_next t x.1 _
    | cons y r => exact ih (h.next t _) _ nofun

end Level

def Chain.term (c : Chain) : Term := Level.start.complete c

namespace Level

theorem root_term_eq_none_iff (c : Chain) : c.term.root = none ↔ c.others = [] := by
  rw [Chain.term, complete, reach]
  cases ho : c.others with
  | nil => exact iff_of_true rfl rfl
  | cons x r =>
    obtain ⟨op, hop⟩ := isSound_start.root_through (.word c.first) (r := x :: r) nofun
    rw [hop]
    exact iff_of_false nofun nofun

theorem isSound_reach (c : Chain) :
    (start.reach c).1.IsSound ∧ (start.reach c).2.isSum = false :=
  isSound_start.through rfl c.others

/-- A sum is before the last word of a chain exactly if the chain is a sum. -/
theorem sum_reach_eq_id_iff (c : Chain) :
    (start.reach c).1.sum = id ↔ c.term.isSum = false := by
  obtain ⟨h, hw⟩ := isSound_reach c
  obtain hs | hs := h.sum
  · refine iff_of_true hs ?_
    rw [Chain.term, complete, finish, hs]
    exact h.product _ hw
  · refine iff_of_false (fun he => ?_) fun hc => ?_
    · have hw := hs (.word c.first)
      rw [he] at hw
      cases hw
    · cases hc.symm.trans (hs _)

/-- A chain is the right side of a remainder before it only if it is one word, and no sum is before
that remainder. -/
theorem complete_modulo_iff {sum : Term → Term} (hs : sum = id ∨ ∀ t, (sum t).isSum = true)
    (a : Term) (c : Chain) :
    (Level.mk sum (.apply .modulo a)).complete c = .apply .modulo (sum a) c.term ↔
      sum = id ∧ c.term.root = none := by
  have hl : (Level.mk sum (.apply .modulo a)).IsSound := ⟨hs, fun _ _ => rfl⟩
  rw [root_term_eq_none_iff]
  by_cases ho : c.others = []
  · have ht : c.term = .word c.first := by
      rw [Chain.term, complete, reach, ho]
      rfl
    have hc : (Level.mk sum (.apply .modulo a)).complete c =
        sum (.apply .modulo a (.word c.first)) := by
      rw [complete, reach, ho]
      rfl
    rw [hc, ht]
    -- the word is the right side at once, and only a sum can be around the remainder
    refine ⟨fun h => ⟨hs.resolve_right fun hs => ?_, ho⟩, fun h => by rw [h.1]; rfl⟩
    have := hs (.apply .modulo a (.word c.first))
    rw [h] at this
    cases this
  · refine iff_of_false (fun h => ?_) fun h => ho h.2
    -- one of the operators that follow is at the root
    obtain ⟨op, hop⟩ := hl.root_through (.word c.first) ho
    cases (congrArg Term.root h).symm.trans hop

end Level

section Chains

variable {q : Quotes} {c d : Chain} {a b : String}

namespace Reader

variable (fs : List Frame) (l : Level)

theorem run_cons (r : Reader) (x : Symbol) (s : List Symbol) :
    r.run (x :: s) = (r.step x).bind fun r => r.run s := List.foldlM_cons ..

theorem run_through (t : Term) (r : List (Operator × List Char)) :
    run ⟨fs, l, some t⟩ (r.flatMap fun x => [.mark (.arith x.1), .word x.2]) =
      some ⟨fs, (l.through t r).1, some (l.through t r).2⟩ := by
  induction r generalizing l t with
  | nil => rfl
  | cons x r ih =>
    rw [List.flatMap_cons, List.cons_append, run_cons]
    exact ih _ _

theorem run_chain (c : Chain) :
    run ⟨fs, l, none⟩ c.symbols = some ⟨fs, (l.reach c).1, some (l.reach c).2⟩ :=
  run_through fs l _ c.others

theorem run_divisor (t : Term) (d : Chain) :
    run ⟨[.group .start], l, some t⟩ ([.mark .modulo] ++ (d.symbols ++ [.closing])) =
      some ⟨[], .start, some ((l.next t .modulo).complete d)⟩ := by
  have h : run ⟨[.group .start], l, some t⟩ [.mark .modulo] =
      some ⟨[.group .start], l.next t .modulo, none⟩ := rfl
  rw [run_append, h, Option.bind_some, run_append, run_chain]
  rfl

end Reader

theorem read_eq {l : List Symbol} (h : Cuts q a.toList l) :
    read q a = (Reader.start.run l).bind Reader.result? := by
  rw [read, h.eq_some, Option.bind_some]

theorem read_chain (h : Cuts q a.toList c.symbols) : read q a = some c.term := by
  rw [read_eq h, Reader.start, Reader.run_chain]
  rfl

section

variable (ha : Cuts q a.toList c.symbols) (hb : Cuts q b.toList d.symbols)
include ha hb

theorem read_call :
    read q ("mod(" ++ a ++ ", " ++ b ++ ")") = some (.apply .modulo c.term d.term) := by
  have hm : Cuts q "mod".toList [.word "mod".toList] :=
    IsWord.cuts ⟨.ofPlain (by decide) (by simp [separator?]), by decide⟩
  have hc : Cuts q ("mod(" ++ a ++ ", " ++ b ++ ")").toList
      ([.word "mod".toList] ++ [.opening] ++
        (c.symbols ++ [.comma] ++ ([] ++ (d.symbols ++ [.closing] ++ [])))) := by
    have h := hm.append (c := '(') rfl (ha.append (c := ',') rfl
      (Cuts.cons (c := ' ') rfl (hb.append (c := ')') rfl .empty)))
    simpa using h
  have h₀ : Reader.start.run ([.word "mod".toList] ++ [.opening]) =
      some ⟨[.left .start], .start, none⟩ := rfl
  have h₁ : Reader.run ⟨[.left .start], .start, none⟩ (c.symbols ++ [.comma]) =
      some ⟨[.right .start c.term], .start, none⟩ := by
    rw [Reader.run_append, Reader.run_chain]
    rfl
  have h₂ : Reader.run ⟨[.right .start c.term], .start, none⟩ (d.symbols ++ [.closing] ++ []) =
      some ⟨[], .start, some (.apply .modulo c.term d.term)⟩ := by
    rw [List.append_nil, Reader.run_append, Reader.run_chain]
    rfl
  rw [read_eq hc, Reader.run_append, h₀, Option.bind_some, Reader.run_append, h₁,
    Option.bind_some, List.nil_append, h₂]
  rfl

/-- A chain after `%` goes on from what is before that. -/
theorem read_modulo : read q ("(" ++ a ++ " % " ++ b ++ ")") =
    some (((Level.start.reach c).1.next (Level.start.reach c).2 .modulo).complete d) := by
  have hc : Cuts q ("(" ++ a ++ " % " ++ b ++ ")").toList
      ([.opening] ++ (c.symbols ++ ([.mark .modulo] ++ (d.symbols ++ [.closing])))) := by
    have h := Cuts.cons (c := '(') rfl (ha.append (c := ' ') rfl (Cuts.cons (c := '%') rfl
      (Cuts.cons (c := ' ') rfl (hb.append (c := ')') rfl .empty))))
    simpa using h
  have h₀ : Reader.start.run [.opening] = some ⟨[.group .start], .start, none⟩ := rfl
  rw [read_eq hc, Reader.run_append, h₀, Option.bind_some, Reader.run_append, Reader.run_chain,
    Option.bind_some, Reader.run_divisor]
  rfl

theorem read_group_modulo : read q ("((" ++ a ++ ") % " ++ b ++ ")") =
    some ((Level.mk id (.apply .modulo c.term)).complete d) := by
  have hc : Cuts q ("((" ++ a ++ ") % " ++ b ++ ")").toList
      ([.opening, .opening] ++ (c.symbols ++ [.closing] ++
        ([.mark .modulo] ++ (d.symbols ++ [.closing])))) := by
    have h := Cuts.cons (c := '(') rfl (Cuts.cons (c := '(') rfl (ha.append (c := ')') rfl
      (Cuts.cons (c := ' ') rfl (Cuts.cons (c := '%') rfl
        (Cuts.cons (c := ' ') rfl (hb.append (c := ')') rfl .empty))))))
    simpa using h
  have h₀ : Reader.start.run [.opening, .opening] =
      some ⟨[.group .start, .group .start], .start, none⟩ := rfl
  have h₁ : Reader.run ⟨[.group .start, .group .start], .start, none⟩ (c.symbols ++ [.closing]) =
      some ⟨[.group .start], .start, some c.term⟩ := by
    rw [Reader.run_append, Reader.run_chain]
    rfl
  rw [read_eq hc, Reader.run_append, h₀, Option.bind_some, Reader.run_append, h₁,
    Option.bind_some, Reader.run_divisor]
  rfl

end

end Chains

end ColumnSql.Lexical
