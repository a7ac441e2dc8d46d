import ColumnSql.Proofs.Dialect.PhraseTable
import ColumnSql.Proofs.Expr.Sql
import ColumnSql.Proofs.Lexical.Identifier

/-! Names in quotes read back, whatever quotes a target has: those of a built-in dialect, those that
a table sets instead, or those without a dialect. -/

namespace ColumnSql

open Lexical Text

namespace Target

/-- The target puts `left` before names in quotes and `close` after them. -/
inductive QuotedBy : Target → String → Char → Prop
  | noDialect : QuotedBy ⟨none⟩ "\"" '"'
  | builtin (b : Builtin) : QuotedBy ⟨some b.dialect⟩ (.ofList [b.quotes.left]) b.quotes.right
  | table {t : PhraseTable} {close : Char} : t.phrase .quotesClose = .ofList [close] →
    QuotedBy ⟨some t.dialect⟩ (t.phrase .quotesOpen) close

variable {t : Target} {left : String} {close : Char}

theorem QuotedBy.identifier_eq (h : t.QuotedBy left close) (name : String) :
    t.identifier name = left ++ String.ofList (double close name.toList ++ [close]) := by
  cases h with
  | noDialect => exact quoted_eq_append '"' '"' name
  | builtin b =>
    change b.quoteIdentifier name = _
    rw [b.quoteIdentifier_eq, quoted_eq_append]
  | @table t close hc =>
    change Identifier.quoteWith (t.phrase .quotesOpen) (t.phrase .quotesClose) name = _
    rw [hc, quoteWith_singleton]

end Target

/-- The text starts with `left`, and what comes after that reads back as `name` up to the closing
quote, whatever follows that is no closing quote. -/
def ReadsAfter (left : String) (close : Char) (sql name : String) : Prop :=
  ∃ inside, sql.toList = left.toList ++ inside ∧
    ∀ rest : List Char, close ∉ rest.head? →
      readQuoted close (inside ++ rest) = some (name.toList, rest)

variable {left sql a b : String} {close : Char}

theorem readsAfter_quoted (left : String) (close : Char) (name : String) :
    ReadsAfter left close (left ++ String.ofList (double close name.toList ++ [close])) name := by
  refine ⟨double close name.toList ++ [close], by simp, fun rest h => ?_⟩
  rw [List.append_assoc]
  exact readQuoted_double close name.toList h

theorem ReadsAfter.unique (ha : ReadsAfter left close sql a) (hb : ReadsAfter left close sql b) :
    a = b := by
  obtain ⟨r, hr, hra⟩ := ha
  obtain ⟨s, hs, hsb⟩ := hb
  obtain rfl : r = s := List.append_cancel_left (hr.symm.trans hs)
  have hn : close ∉ ([] : List Char).head? := nofun
  have h := (hra [] hn).symm.trans (hsb [] hn)
  exact String.toList_injective (Prod.mk.inj (Option.some.inj h)).1

/-- A name in quotes reads back as it is, to the closing quote at its end and no earlier one. So
different names make different texts. An alias that is asked for is written in this way after its
body. -/
theorem identifier_reads_back {t : Target} (h : t.QuotedBy left close) :
    (∀ name, ReadsAfter left close (t.identifier name) name) ∧
    Function.Injective t.identifier ∧
    ∀ (e body : Expr) (name : String) (ctx : Context), e.node = .named body name →
      ctx.has .aliases = true →
      e.sql t ctx = body.sql t ctx.inner ++ t.phrase .renameColumn ++ t.identifier name := by
  have hr (name) : ReadsAfter left close (t.identifier name) name :=
    h.identifier_eq name ▸ readsAfter_quoted left close name
  refine ⟨hr, fun a b hab => (hr a).unique (hab ▸ hr b), fun e body name ctx he ha => ?_⟩
  rw [e.sql_node, he, Node.sql_named, if_pos ha]

/-- A name made of closing quotes reads back also where the quote before it has two characters. -/
theorem identifier_reads_back_angles :
    let table := ((PhraseTable.ofBase .generic).set .quotesOpen "<<").set .quotesClose ">"
    let t : Target := ⟨some table.dialect⟩
    let column : Expr := .mk [0] [] (.column ⟨none, "A", .varchar⟩)
    let e : Expr := .mk [1] [] (.named column ">>")
    t.QuotedBy "<<" '>' ∧ e.sql t .aliases = "A AS <<>>>>>" ∧
      ReadsAfter "<<" '>' "<<>>>>>" ">>" ∧ t.identifier ">>" ≠ t.identifier ">" := by
  intro table t column e
  have h : t.QuotedBy "<<" '>' := .table rfl
  obtain ⟨hr, hi, he⟩ := identifier_reads_back h
  have hn : t.identifier ">>" = "<<>>>>>" := by decide +kernel
  refine ⟨h, ?_, hn ▸ hr ">>", hi.ne (by decide)⟩
  rw [he e column ">>" .aliases rfl (by decide), hn]
  decide +kernel

end ColumnSql
