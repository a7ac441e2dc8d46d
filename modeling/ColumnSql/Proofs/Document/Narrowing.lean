import ColumnSql.Proofs.Document.Encoding
import Mathlib.Data.List.Forall2

/-! Readings that can be less than others. An operand that is written again may have lost ways to be
read, since nodes become objects, but it never gains one: a list that was read as no node is none
when it is written again. -/

namespace ColumnSql

theorem isSome_bind_mono {α β : Type} {x y : Option α} {f g : α → Option β}
    (h : x.isSome = true → y.isSome = true)
    (hf : ∀ a b, (f a).isSome = true → (g b).isSome = true) :
    (x >>= f).isSome = true → (y >>= g).isSome = true := by
  cases x with
  | none => intro hx; cases hx
  | some a =>
    obtain ⟨b, rfl⟩ := Option.isSome_iff_exists.1 (h rfl)
    exact hf a b

namespace Reading

/-- `s` is no scalar, and each way to read it is one to read `r`. -/
structure Weaker (s r : Reading) : Prop where
  json : s.json.isScalar = false
  word : s.word = none
  node : s.node.isSome = true → r.node.isSome = true
  case : s.case.isSome = true → r.case.isSome = true
  nodes : s.nodes?.isSome = true → r.nodes?.isSome = true
  terms : s.terms?.isSome = true → r.terms?.isSome = true
  cases : s.cases?.isSome = true → r.cases?.isSome = true

def Narrows (s r : Reading) : Prop := s = r ∨ Weaker s r

/-- What has a result for a reading has one for those that it narrows. -/
def Kept {α : Type} (read : Reading → Option α) : Prop :=
  ∀ s r, Narrows s r → (read s).isSome = true → (read r).isSome = true

namespace Narrows

variable {s r : Reading}

theorem eq_of_isScalar (h : Narrows s r) (hs : s.json.isScalar = true) : s = r :=
  h.resolve_right fun hw => by simp [hw.json] at hs

theorem eq_of_kind (h : Narrows s r) {k : Document.Kind} (hk : s.kind? = some k) : s = r := by
  refine h.eq_of_isScalar ?_
  unfold kind? at hk
  cases hj : s.json <;> simp_all [Json.isScalar]

end Narrows

namespace Kept

theorem ofWeaker {α : Type} {read : Reading → Option α}
    (h : ∀ s r, Weaker s r → (read s).isSome = true → (read r).isSome = true) : Kept read := by
  rintro s r (rfl | hw)
  · exact id
  · exact h s r hw

theorem ofScalar {α : Type} {read : Reading → Option α}
    (h : ∀ s, s.json.isScalar = false → read s = none) : Kept read :=
  .ofWeaker fun s _ hw hs => by simp [h s hw.json] at hs

theorem text : Kept text? := .ofScalar fun s h => by
  unfold text?
  cases hj : s.json <;> simp_all [Json.isScalar]

theorem flag : Kept flag? := .ofScalar fun s h => by
  unfold flag?
  cases hj : s.json <;> simp_all [Json.isScalar]

theorem word {α : Type} (f : String → Option α) : Kept fun r => r.word.bind f :=
  .ofWeaker fun s _ hw hs => by simp [hw.word] at hs

theorem node : Kept Reading.node := .ofWeaker fun _ _ hw => hw.node

theorem case : Kept Reading.case := .ofWeaker fun _ _ hw => hw.case

theorem nodes : Kept nodes? := .ofWeaker fun _ _ hw => hw.nodes

theorem terms : Kept terms? := .ofWeaker fun _ _ hw => hw.terms

theorem cases : Kept cases? := .ofWeaker fun _ _ hw => hw.cases

theorem total {α : Type} (f : Reading → α) : Kept fun r => some (f r) := fun _ _ _ _ => rfl

theorem optional {α : Type} {read : Reading → Option α} (h : Kept read) :
    Kept fun r => if r.isNull then some none else (read r).map some := by
  refine .ofWeaker fun s r hw => ?_
  have hn : s.isNull = false := by
    have hj := hw.json
    unfold isNull
    cases hs : s.json <;> simp_all [Json.isScalar]
  have hr := h s r (.inr hw)
  rw [if_neg (by simp [hn])]
  split
  · exact fun _ => rfl
  · simpa using hr

theorem mapM {α : Type} {read : Reading → Option α} (h : Kept read) {ss rs : List Reading}
    (hs : List.Forall₂ Narrows ss rs) :
    (ss.mapM read).isSome = true → (rs.mapM read).isSome = true := by
  induction hs with
  | nil => exact id
  | cons hn _ ih =>
    rw [List.mapM_cons, List.mapM_cons]
    exact isSome_bind_mono (h _ _ hn) fun _ _ => isSome_bind_mono ih fun _ _ _ => rfl

end Kept

end Reading

open Reading

namespace Fields

def Narrow (fs gs : Fields) : Prop :=
  List.Forall₂ (fun f g : String × Reading => f.1 = g.1 ∧ Narrows f.2 g.2) fs gs

variable {fs gs : Fields} {α : Type} {read : Reading → Option α}

theorem Narrow.find (h : Narrow fs gs) (name : String) :
    fs.find? name = none ∧ gs.find? name = none ∨
      fs.find? name = some none ∧ gs.find? name = some none ∨
      ∃ s r, fs.find? name = some (some s) ∧ gs.find? name = some (some r) ∧ Narrows s r := by
  have hf : List.Forall₂ (fun f g : String × Reading => f.1 = g.1 ∧ Narrows f.2 g.2)
      (fs.filter fun f => f.1 == name) (gs.filter fun f => f.1 == name) :=
    List.rel_filter (fun _ _ hx => by simp [hx.1]) h
  unfold find?
  generalize (fs.filter fun f => f.1 == name) = ss, (gs.filter fun f => f.1 == name) = rs at hf
  cases hf with
  | nil => simp
  | cons hx hr =>
    cases hr with
    | nil => exact .inr (.inr ⟨_, _, rfl, rfl, hx.2⟩)
    | cons _ _ => simp

theorem Narrow.need (h : Narrow fs gs) (name : String) (hr : Kept read) :
    (fs.need? name read).isSome = true → (gs.need? name read).isSome = true := by
  unfold need?
  obtain ⟨hs, -⟩ | ⟨hs, -⟩ | ⟨s, r, hs, hg, hn⟩ := h.find name
  · simp [hs]
  · simp [hs]
  · simpa [hs, hg] using hr s r hn

theorem Narrow.get (h : Narrow fs gs) (name : String) (default : α) (hr : Kept read) :
    (fs.get? name default read).isSome = true → (gs.get? name default read).isSome = true := by
  unfold get?
  obtain ⟨hs, -⟩ | ⟨-, hg⟩ | ⟨s, r, hs, hg, hn⟩ := h.find name
  · simp [hs]
  · simp [hg]
  · simpa [hs, hg] using hr s r hn

theorem Narrow.may (h : Narrow fs gs) (name : String) (hr : Kept read) :
    (fs.may? name read).isSome = true → (gs.may? name read).isSome = true :=
  h.get name none hr.optional

end Fields

namespace Document.Kind

theorem isSome_document?_mono (k : Kind) {fs gs : Fields} (h : fs.Narrow gs) :
    (k.document? fs).isSome = true → (k.document? gs).isSome = true := by
  have he := h.need "expr" .node
  have ht := Kept.word DataType.ofKey?
  cases k with
  | column =>
    exact isSome_bind_mono (h.need _ .text) fun _ _ => isSome_bind_mono (h.may _ .text) fun _ _ =>
      isSome_bind_mono (h.get _ _ ht) fun _ _ _ => rfl
  | value =>
    exact isSome_bind_mono (h.need _ (.total _)) fun _ _ =>
      isSome_bind_mono (h.get _ _ ht) fun _ _ _ => rfl
  | now => exact isSome_bind_mono (h.get _ _ ht) fun _ _ _ => rfl
  | arith =>
    exact isSome_bind_mono he fun _ _ =>
      isSome_bind_mono (h.need _ (.word Operator.ofSymbol?)) fun _ _ =>
        isSome_bind_mono (h.need _ (.total _)) fun _ _ _ => rfl
  | concat =>
    exact isSome_bind_mono he fun _ _ => isSome_bind_mono (h.need _ (.total _)) fun _ _ _ => rfl
  | concatAll =>
    exact isSome_bind_mono he fun _ _ => isSome_bind_mono (h.need _ .nodes) fun _ _ =>
      isSome_bind_mono (h.may _ .text) fun _ _ _ => rfl
  | countAll => exact id
  | function =>
    exact isSome_bind_mono he fun _ _ => isSome_bind_mono (h.need _ .text) fun _ _ =>
      isSome_bind_mono (h.may _ ht) fun _ _ => isSome_bind_mono (h.get _ _ .flag) fun _ _ _ => rfl
  | phrase =>
    exact isSome_bind_mono he fun _ _ =>
      isSome_bind_mono (h.need _ (.word Phrase.ofExactKey?)) fun _ _ =>
        isSome_bind_mono (h.get _ _ .terms) fun _ _ =>
          isSome_bind_mono (h.may _ ht) fun _ _ =>
            isSome_bind_mono (h.may _ ht) fun _ _ _ => rfl
  | call =>
    exact isSome_bind_mono (h.need _ .text) fun _ _ => isSome_bind_mono he fun _ _ =>
      isSome_bind_mono (h.get _ _ .text) fun _ _ => isSome_bind_mono (h.may _ .node) fun _ _ =>
        isSome_bind_mono (h.get _ _ .text) fun _ _ _ => rfl
  | decode =>
    exact isSome_bind_mono he fun _ _ => isSome_bind_mono (h.get _ _ .cases) fun _ _ =>
      isSome_bind_mono (h.may _ (.total _)) fun _ _ =>
        isSome_bind_mono (h.need _ ht) fun _ _ _ => rfl
  | convert =>
    exact isSome_bind_mono he fun _ _ => isSome_bind_mono (h.need _ ht) fun _ _ =>
      isSome_bind_mono (h.may _ .text) fun _ _ _ => rfl
  | parenthesis => exact isSome_bind_mono he fun _ _ _ => rfl
  | named =>
    exact isSome_bind_mono he fun _ _ => isSome_bind_mono (h.need _ .text) fun _ _ _ => rfl

end Document.Kind

namespace Reading

theorem narrow_zip (names : List String) {ss rs : List Reading}
    (h : List.Forall₂ Narrows ss rs) : Fields.Narrow (names.zip ss) (names.zip rs) := by
  induction h generalizing names with
  | nil => simp [Fields.Narrow]
  | cons hn _ ih =>
    cases names with
    | nil => exact .nil
    | cons name names => exact .cons ⟨rfl, hn⟩ (ih names)

theorem isSome_ofItems?_mono {ss rs : List Reading} (h : List.Forall₂ Narrows ss rs) :
    (ofItems? ss).isSome = true → (ofItems? rs).isSome = true := by
  cases h with
  | nil => exact id
  | @cons s r ss rs hn hr =>
    simp only [ofItems?]
    cases hk : s.kind? with
    | none => simp
    | some k =>
      simp only [← hn.eq_of_kind hk, hk, Option.bind_eq_bind, Option.bind_some, hr.length_eq]
      split
      · exact id
      · exact k.isSome_document?_mono (narrow_zip k.fields hr)

theorem weaker_ofArray {ss rs : List Reading} (h : List.Forall₂ Narrows ss rs) :
    Weaker (ofArray ss) (ofArray rs) where
  json := rfl
  word := rfl
  node := isSome_ofItems?_mono h
  case := by
    match h with
    | .nil => exact id
    | .cons _ .nil => exact id
    | .cons _ (.cons _ .nil) => exact fun _ => rfl
    | .cons _ (.cons _ (.cons _ _)) => intro hs; cases hs
  nodes := Kept.mapM .node h
  terms _ := rfl
  cases := Kept.mapM .case h

end Reading

end ColumnSql
