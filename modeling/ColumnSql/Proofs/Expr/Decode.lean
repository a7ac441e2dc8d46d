import ColumnSql.Proofs.Expr.Sql

/-! The SQL of a decode in the built-in dialects, in words: those of `case`, or those of a function
with its arguments in order. The parts of a decode are put in templates twice, and no template is
read again after a part is put in it. -/

namespace ColumnSql

open Template

structure DecodeWords where
  start : String
  key : String
  result : String
  otherwise : String
  stop : String

namespace DecodeWords

/-- `case e when k then r else x end` -/
def case : DecodeWords := ⟨"case ", " when ", " then ", " else ", " end"⟩

/-- `decode(e, k, r, x)` -/
def function : DecodeWords := ⟨"decode(", ", ", ", ", ", ", ")"⟩

variable (w : DecodeWords)

def branch (x : String × String) : String := w.key ++ x.1 ++ w.result ++ x.2

def last : Option String → String
  | none => ""
  | some s => w.otherwise ++ s

def text (condition : String) (branches : List (String × String)) (otherwise : Option String) :
    String :=
  w.start ++ condition ++ (String.join (branches.map w.branch) ++ w.last otherwise) ++ w.stop

end DecodeWords

def Builtin.decodeWords : Builtin → DecodeWords
  | oracle => .function
  | generic | sqlServer | mySql | postgres | sqlite | hsql => .case

structure Target.HasWords (t : Target) (w : DecodeWords) : Prop where
  branch (arg : Placeholder → String) :
    t.phrase .decodeSeparator ++ substitute arg (t.phrase .decodePart).toList =
      w.branch (arg ⟨some 0, none⟩, arg ⟨some 1, none⟩)
  last (arg : Placeholder → String) :
    t.phrase .decodeSeparator ++ substitute arg (t.phrase .decodeElse).toList =
      w.last (some (arg ⟨some 0, none⟩))
  whole (arg : Placeholder → String) (condition : String) :
    filled (t.phrase .decode) arg condition =
      w.start ++ condition ++ arg ⟨some 0, none⟩ ++ w.stop
  raw (sql : String) : t.literal (.raw sql) .unknown = sql

namespace Target.HasWords

variable {t : Target} {w : DecodeWords}

theorem case (hs : t.phrase .decodeSeparator = " ")
    (hp : t.phrase .decodePart = "when {0} then {1}") (he : t.phrase .decodeElse = "else {0}")
    (hd : t.phrase .decode = "case ?{0} end") (hr : ∀ sql, t.literal (.raw sql) .unknown = sql) :
    t.HasWords .case where
  branch arg := by
    have h : pieces "when {0} then {1}".toList = "when ".toList.map .verbatim ++
        .parameter ⟨some 0, none⟩ :: " then ".toList.map .verbatim ++
        [.parameter ⟨some 1, none⟩] := by decide
    apply String.toList_injective
    rw [hs, hp, String.toList_append, toList_substitute, h]
    simp [Piece.text, DecodeWords.branch, DecodeWords.case]
  last arg := by
    have h : pieces "else {0}".toList =
        "else ".toList.map .verbatim ++ [.parameter ⟨some 0, none⟩] := by decide
    apply String.toList_injective
    rw [hs, he, String.toList_append, toList_substitute, h]
    simp [Piece.text, DecodeWords.last, DecodeWords.case]
  whole arg condition := by
    have h : parts "case ?{0} end" = ("case ".toList, "{0} end".toList) := by decide
    have h₁ : pieces "case ".toList = "case ".toList.map .verbatim := by decide
    have h₂ : pieces "{0} end".toList =
        .parameter ⟨some 0, none⟩ :: " end".toList.map .verbatim := by decide
    apply String.toList_injective
    rw [hd, filled, h, String.toList_append, String.toList_append, toList_substitute,
      toList_substitute, h₁, h₂]
    simp [Piece.text, DecodeWords.case]
  raw := hr

theorem function (hs : t.phrase .decodeSeparator = ", ")
    (hp : t.phrase .decodePart = "{0}, {1}") (he : t.phrase .decodeElse = "{0}")
    (hd : t.phrase .decode = "decode(?{0})") (hr : ∀ sql, t.literal (.raw sql) .unknown = sql) :
    t.HasWords .function where
  branch arg := by
    have h : pieces "{0}, {1}".toList = .parameter ⟨some 0, none⟩ ::
        ", ".toList.map .verbatim ++ [.parameter ⟨some 1, none⟩] := by decide
    apply String.toList_injective
    rw [hs, hp, String.toList_append, toList_substitute, h]
    simp [Piece.text, DecodeWords.branch, DecodeWords.function]
  last arg := by
    have h : pieces "{0}".toList = [.parameter ⟨some 0, none⟩] := by decide
    apply String.toList_injective
    rw [hs, he, String.toList_append, toList_substitute, h]
    simp [Piece.text, DecodeWords.last, DecodeWords.function]
  whole arg condition := by
    have h : parts "decode(?{0})" = ("decode(".toList, "{0})".toList) := by decide
    have h₁ : pieces "decode(".toList = "decode(".toList.map .verbatim := by decide
    have h₂ : pieces "{0})".toList =
        .parameter ⟨some 0, none⟩ :: ")".toList.map .verbatim := by decide
    apply String.toList_injective
    rw [hd, filled, h, String.toList_append, String.toList_append, toList_substitute,
      toList_substitute, h₁, h₂]
    simp [Piece.text, DecodeWords.function]
  raw := hr

theorem builtin (b : Builtin) : (Target.mk (some b.dialect)).HasWords b.decodeWords := by
  cases b with
  | oracle => exact .function rfl rfl rfl rfl fun _ => rfl
  | _ => exact .case rfl rfl rfl rfl fun _ => rfl

theorem sql_decode (h : t.HasWords w) (e : Expr) (branches : List Branch)
    (otherwise : Option Operand) (type : DataType) (ctx : Context) :
    (Node.decode e branches otherwise type).sql t ctx =
      w.text (e.sql t ctx.inner)
        (branches.map fun b =>
          (b.key.sql e.dataType ", " t ctx.inner, b.result.sql type ", " t ctx.inner))
        (otherwise.map fun v => v.sql type ", " t ctx.inner) := by
  have hb (b : Branch) : b.sql e.dataType type t ctx.inner =
      w.branch (b.key.sql e.dataType ", " t ctx.inner, b.result.sql type ", " t ctx.inner) := by
    rw [Branch.sql, h.branch]
    rfl
  have hl : Operand.elseSql otherwise type t ctx.inner =
      w.last (otherwise.map fun v => v.sql type ", " t ctx.inner) := by
    cases otherwise with
    | none => rfl
    | some v => exact h.last _
  have hr (sql : String) : t.argument [t.literal (.raw sql)] .unknown ⟨some 0, none⟩ = sql :=
    h.raw sql
  rw [Node.sql_decode, h.whole, hr, Branch.allSql, hl, DecodeWords.text, List.map_map]
  simp only [hb]
  rfl

end Target.HasWords

/-- In each built-in dialect a decode is the words of the dialect around the SQL of its parts, which
stand there as they are and in their order: the keys as literals of the type of the condition, the
results as those of the type of the decode. -/
theorem sql_decode_words (b : Builtin) (place : Place) (attributes : Attributes) (e : Expr)
    (branches : List Branch) (otherwise : Option Operand) (type : DataType) (ctx : Context) :
    let t : Target := ⟨some b.dialect⟩
    (Expr.mk place attributes (.decode e branches otherwise type)).sql t ctx =
      b.decodeWords.text (e.sql t ctx.inner)
        (branches.map fun x =>
          (x.key.sql e.dataType ", " t ctx.inner, x.result.sql type ", " t ctx.inner))
        (otherwise.map fun v => v.sql type ", " t ctx.inner) := by
  intro t
  rw [Expr.sql_mk, (Target.HasWords.builtin b).sql_decode]

end ColumnSql
