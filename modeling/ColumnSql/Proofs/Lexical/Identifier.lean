import ColumnSql.Proofs.Lexical.Dialect

/-! Names read back from SQL. An identifier is either a name in quotes, in which the closing quote
is written twice, or a regular name that is no reserved word. Lists of words and characters decide
which names are in quotes, and so a name that is in none of these and not regular is bare and no
identifier. -/

namespace ColumnSql

namespace Lexical

def isNameChar (c : Char) : Bool := Text.isLetter c || Text.isDigit c || c = '_' || c = '$'

def isRegular : List Char → Bool
  | [] => false
  | c :: s => (Text.isLetter c || c = '_') && s.all isNameChar

def isReserved (s : List Char) : Bool :=
  Identifier.reserved.contains (Text.lowered (String.ofList s))

def readQuoted (close : Char) : List Char → Option (List Char × List Char)
  | [] => none
  | c :: s =>
    if c = close then
      match s with
      | [] => some ([], [])
      | d :: r =>
        if d = close then (readQuoted close r).map fun x => (close :: x.1, x.2)
        else some ([], d :: r)
    else (readQuoted close s).map fun x => (c :: x.1, x.2)

/-- the name that an identifier at the start of a text is, and what follows it -/
def readIdentifier (q : Quotes) : List Char → Option (List Char × List Char)
  | [] => none
  | c :: s =>
    if c = q.left then readQuoted q.right s
    else
      let name := (c :: s).takeWhile isNameChar
      if isRegular name && !isReserved name then some (name, (c :: s).dropWhile isNameChar)
      else none

/-- An identifier that ends before `rest` does not go on in it. -/
def Ends (q : Quotes) (rest : List Char) : Prop :=
  ∀ c ∈ rest.head?, c ≠ q.right ∧ isNameChar c = false

/-- The text is one identifier, which reads back as `name` whatever follows. -/
def Reads (q : Quotes) (sql name : String) : Prop :=
  ∀ rest, Ends q rest → readIdentifier q (sql.toList ++ rest) = some (name.toList, rest)

variable {q : Quotes}

theorem readQuoted_of_ne {close c : Char} (h : c ≠ close) (s : List Char) :
    readQuoted close (c :: s) = (readQuoted close s).map fun x => (c :: x.1, x.2) := by
  rw [readQuoted.eq_def]
  exact if_neg h

theorem readQuoted_double (close : Char) (s : List Char) {rest : List Char}
    (h : close ∉ rest.head?) :
    readQuoted close (Text.double close s ++ close :: rest) = some (s, rest) := by
  induction s with
  | nil =>
    cases rest with
    | nil => simp [Text.double_nil, readQuoted]
    | cons c r =>
      have hc : c ≠ close := by simpa using h
      simp [Text.double_nil, readQuoted, hc]
  | cons c s ih =>
    rw [Text.double_cons]
    by_cases hc : c = close
    · subst hc
      simp [readQuoted, ih]
    · rw [if_neg hc, List.singleton_append, List.cons_append, readQuoted_of_ne hc, ih]
      rfl

/-- What is read up to a closing quote is shorter than the text, as the quote is no part of it. -/
theorem length_readQuoted {close : Char} {s name rest : List Char}
    (h : readQuoted close s = some (name, rest)) : name.length + rest.length < s.length := by
  induction s using readQuoted.induct close generalizing name rest with
  | case1 => cases h
  | case2 =>
    simp only [readQuoted, if_true, Option.some.injEq, Prod.mk.injEq] at h
    obtain ⟨rfl, rfl⟩ := h
    simp
  | case3 r ih =>
    rw [readQuoted, if_pos rfl] at h
    simp only [if_true, Option.map_eq_some_iff, Prod.mk.injEq] at h
    obtain ⟨⟨name, rest⟩, hr, rfl, rfl⟩ := h
    have := ih hr
    simp only [List.length_cons]
    omega
  | case4 d r hd =>
    simp only [readQuoted, if_true, if_neg hd, Option.some.injEq, Prod.mk.injEq] at h
    obtain ⟨rfl, rfl⟩ := h
    simp
  | case5 c s hc ih =>
    rw [readQuoted_of_ne hc, Option.map_eq_some_iff] at h
    obtain ⟨⟨name, rest⟩, hr, he⟩ := h
    simp only [Prod.mk.injEq] at he
    obtain ⟨rfl, rfl⟩ := he
    have := ih hr
    simp only [List.length_cons]
    omega

theorem reads_quoted (q : Quotes) (name : String) :
    Reads q (Text.quoted q.left q.right name) name := by
  intro rest h
  have hr : q.right ∉ rest.head? := fun hc => (h _ hc).1 rfl
  rw [Text.quoted, String.toList_ofList]
  simp [readIdentifier, readQuoted_double q.right _ hr]

theorem isNameChar_of_mem_nameQuotes {c : Char} (h : c ∈ nameQuotes) : isNameChar c = false := by
  have hq : nameQuotes.any isNameChar = false := by decide +kernel
  exact Bool.eq_false_iff.2 (List.any_eq_false.1 hq c h)

theorem all_of_isRegular {s : List Char} (h : isRegular s = true) : s.all isNameChar = true := by
  cases s with
  | nil => rfl
  | cons c s =>
    rw [isRegular, Bool.and_eq_true] at h
    have hc : isNameChar c = true := by
      obtain hl | hu := Bool.or_eq_true_iff.1 h.1
      · simp [isNameChar, hl]
      · simp [isNameChar, hu]
    rw [List.all_cons, hc, h.2]
    rfl

theorem takeWhile_append {s rest : List Char} (hs : s.all isNameChar = true) (h : Ends q rest) :
    (s ++ rest).takeWhile isNameChar = s ∧ (s ++ rest).dropWhile isNameChar = rest := by
  have hs := List.all_eq_true.1 hs
  rw [List.takeWhile_append_of_pos hs, List.dropWhile_append_of_pos hs]
  cases rest with
  | nil => simp
  | cons c r =>
    have hc : isNameChar c = false := (h c rfl).2
    simp [hc]

theorem reads_regular {name : String} (hn : isRegular name.toList = true)
    (hr : isReserved name.toList = false) : Reads q name name := by
  intro rest h
  have ha := all_of_isRegular hn
  obtain ⟨ht, hd⟩ := takeWhile_append ha h
  cases hs : name.toList with
  | nil => simp [hs, isRegular] at hn
  | cons c s =>
    rw [hs] at hn hr ha ht hd
    -- no quote starts a regular name, so it is read as a bare one
    have hc : c ≠ q.left := by
      rintro rfl
      have := isNameChar_of_mem_nameQuotes q.left_mem
      simp [this] at ha
    rw [List.cons_append, readIdentifier, if_neg hc, ← List.cons_append]
    simp only [ht, hd, hn, hr]
    rfl

theorem reads_bare_iff {name : String} :
    Reads q name name ↔ isRegular name.toList = true ∧ isReserved name.toList = false := by
  refine ⟨fun h => ?_, fun h => reads_regular h.1 h.2⟩
  have h := h [] nofun
  rw [List.append_nil] at h
  cases hs : name.toList with
  | nil =>
    rw [hs] at h
    cases h
  | cons c s =>
    rw [hs, readIdentifier] at h
    split at h
    next =>
      -- a name that begins with a quote is longer than what is read inside
      have := length_readQuoted h
      simp only [List.length_cons, List.length_nil] at this
      omega
    next =>
      dsimp only at h
      split at h
      next hn =>
        simp only [Option.some.injEq, Prod.mk.injEq] at h
        rw [h.1] at hn
        simpa using hn
      next => cases h

end Lexical

open Lexical

theorem Builtin.quoteIdentifier_eq (b : Builtin) :
    b.quoteIdentifier = Text.quoted b.quotes.left b.quotes.right := by
  cases b <;> rfl

theorem Builtin.name_eq (b : Builtin) (name : String) :
    (Target.mk (some b.dialect)).name name =
      if Identifier.needsQuotes name then Text.quoted b.quotes.left b.quotes.right name
      else name := by
  rw [← b.quoteIdentifier_eq]
  rfl

theorem Identifier.needsQuotes_iff {name : String} :
    needsQuotes name = true ↔
      isReserved name.toList = true ∨ ∃ c ∈ name.toList, c ∈ illegal := by
  simp [needsQuotes, isReserved]

/-- A name is in quotes exactly if it is a reserved word or has an illegal character. In quotes it
is one identifier and reads back as it is. A bare name does so exactly if it is regular: it may have
characters in it, or at its start, that no identifier has. -/
theorem name_reads_back (b : Builtin) (name : String) :
    let sql := (Target.mk (some b.dialect)).name name
    let isListed := isReserved name.toList = true ∨ ∃ c ∈ name.toList, c ∈ Identifier.illegal
    (sql = Text.quoted b.quotes.left b.quotes.right name ∧ isListed ∨ sql = name ∧ ¬ isListed) ∧
      (Reads b.quotes sql name ↔ isListed ∨ isRegular name.toList = true) := by
  intro sql isListed
  have hl : Identifier.needsQuotes name = true ↔ isListed := Identifier.needsQuotes_iff
  by_cases hn : Identifier.needsQuotes name = true
  · have hs : sql = Text.quoted b.quotes.left b.quotes.right name :=
      (b.name_eq name).trans (if_pos hn)
    refine ⟨.inl ⟨hs, hl.1 hn⟩, ?_⟩
    rw [hs]
    exact ⟨fun _ => .inl (hl.1 hn), fun _ => reads_quoted b.quotes name⟩
  · have hs : sql = name := (b.name_eq name).trans (if_neg hn)
    rw [hl] at hn
    have hr : isReserved name.toList = false := by simpa using (not_or.1 hn).1
    refine ⟨.inr ⟨hs, hn⟩, ?_⟩
    rw [hs, reads_bare_iff]
    exact ⟨fun h => .inr h.1, fun h => ⟨h.resolve_left hn, hr⟩⟩

theorem name_reads_back_brackets :
    let q := Builtin.sqlServer.quotes
    let sql := (Target.mk (some Builtin.sqlServer.dialect)).name
    sql "a]b c" = "[a]]b c]" ∧ Reads q "[a]]b c]" "a]b c" ∧
      sql "a_1" = "a_1" ∧ Reads q "a_1" "a_1" ∧ sql "1a" = "1a" ∧ ¬ Reads q "1a" "1a" := by
  intro q sql
  have hs₁ : sql "a]b c" = "[a]]b c]" := by decide +kernel
  have hs₂ : sql "a_1" = "a_1" := by decide +kernel
  have hs₃ : sql "1a" = "1a" := by decide +kernel
  have hr₁ := (name_reads_back .sqlServer "a]b c").2.2 (.inl (.inr ⟨' ', by decide, by decide⟩))
  have hr₂ := (name_reads_back .sqlServer "a_1").2.2 (.inr (by decide +kernel))
  have hr₃ := mt (name_reads_back .sqlServer "1a").2.1 <| by
    rw [← Identifier.needsQuotes_iff]
    decide +kernel
  exact ⟨hs₁, hs₁ ▸ hr₁, hs₂, hs₂ ▸ hr₂, hs₃, hs₃ ▸ hr₃⟩

/-- A tab does not make a name need quotes, and ends it when it is read. -/
theorem name_bare_tab :
    let name := "A\tFROM\tsecrets"
    ∀ b : Builtin,
      let sql := (Target.mk (some b.dialect)).name name
      sql = name ∧ ¬ Reads b.quotes sql name ∧
        readIdentifier b.quotes sql.toList = some (['A'], "\tFROM\tsecrets".toList) := by
  intro name b sql
  have hs : sql = name := by cases b <;> decide +kernel
  have hg : isRegular name.toList = false := by decide +kernel
  refine ⟨hs, fun h => ?_, ?_⟩
  · rw [hs, reads_bare_iff, hg] at h
    cases h.1
  · rw [hs]
    cases b <;> decide +kernel

/-- A column after its table reads back as the one and the other, if both do. -/
theorem Column.sql_reads_back {q : Quotes} {t : Target} {ctx : Context} (c : Column)
    {table : String} (hc : c.table = some table) (hf : ctx.has .fullName = true)
    (ht : Reads q (t.name table) table) (hn : Reads q (t.name c.name) c.name) {rest : List Char}
    (h : Ends q rest) :
    ∃ s, readIdentifier q ((c.sql t ctx).toList ++ rest) = some (table.toList, '.' :: s) ∧
      readIdentifier q s = some (c.name.toList, rest) := by
  have he : Ends q ('.' :: ((t.name c.name).toList ++ rest)) := by
    rintro c ⟨⟩
    exact ⟨Quotes.ne_right (by decide), by decide +kernel⟩
  refine ⟨(t.name c.name).toList ++ rest, ?_, hn rest h⟩
  rw [← ht _ he, Column.sql, hf, hc]
  simp

end ColumnSql
