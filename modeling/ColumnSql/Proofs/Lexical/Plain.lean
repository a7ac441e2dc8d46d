import ColumnSql.Proofs.Calendar.Pattern
import ColumnSql.Proofs.Decimal.Numeral
import ColumnSql.Proofs.Lexical.Scan
import ColumnSql.Value

/-! Numbers, dates and times as text have no character that means something to the scan. -/

namespace ColumnSql.Lexical

open Decimal Calendar

theorem plain_of_class {p : Char → Bool} (h : marks.any p = false) {s : List Char}
    (hs : ∀ c ∈ s, p c = true) : Plain s := by
  intro c hc
  simp only [isPlain, decide_eq_true_eq]
  exact fun hm => List.any_eq_false.1 h c hm (hs c hc)

theorem plain_of_isDecimal {s : List Char} (h : isDecimal s = true) : Plain s :=
  plain_of_class (by decide) (numeralChars_of_isDecimal h)

def isSimple : Item → Bool
  | .char c => isPlain c
  | .field .year _ | .field .month _ | .field .day _ | .field .hour _ | .field .minute _
  | .field .second _ | .fraction | .fractionDigits .. => true
  | _ => false

theorem plain_item (t : DateTime) {x : Item} (h : isSimple x = true) : Plain (x.text t) := by
  have hn (hx : x.isNumeric = true) : Plain (x.text t) :=
    plain_of_class (by decide) (momentChars_item t hx)
  cases x with
  | char c => exact .cons h .nil
  | field f pad =>
    cases f with
    | year | month | day | hour | minute | second => exact hn rfl
    | _ => cases h
  | fraction | fractionDigits => exact hn rfl
  | _ => cases h

def isSimplePattern (s : List Char) : Bool :=
  (itemsFrom 0 s).all fun items => items.all isSimple

theorem plain_format (t : DateTime) {pattern s : String}
    (hp : isSimplePattern pattern.toList = true) (h : t.format? pattern = some s) :
    Plain s.toList := by
  obtain ⟨items, hi, rfl⟩ := Option.map_eq_some_iff.1 h
  have hi : itemsFrom 0 pattern.toList = some items := hi
  rw [isSimplePattern, hi, Option.all_some, List.all_eq_true] at hp
  rw [String.toList_ofList]
  intro c hc
  obtain ⟨x, hx, hc⟩ := List.mem_flatMap.1 hc
  exact plain_item t (hp x hx) c hc

end ColumnSql.Lexical
