import ColumnSql.Expr.Build
import ColumnSql.Proofs.Expr.Spliced

/-! A text constant in an expression, at any depth, shows in the SQL between its own quotes only. -/

namespace ColumnSql

theorem Spliced.othersSql {ι : Type} {text q : ι → String} {t : Target}
    (h : Spliced q fun i => t.literal (.text (text i)) .varchar) (others : List Expr)
    (ctx : Context) (connector : String) :
    Spliced q fun i => Expr.othersSql others (some (text i)) t ctx connector := by
  simp only [Expr.othersSql, Target.separatorText]
  induction others with
  | nil => exact .const _
  | cons e r ih =>
    simp only [List.map_cons, String.join_cons]
    exact (((Spliced.const _).append (h.append (.const _))).append (.const _)).append ih

inductive TextSpot
  | constant (type : DataType)
  | constantFor (column : Expr)
  | operand (slot : Slot) (hole : OperandHole)
  | separator (first : Expr) (others : List Expr)

namespace TextSpot

def node : TextSpot → String → Node
  | constant type, s => .constant (.text s) type
  | constantFor e, s => .constantFor e (.text s)
  | operand slot hole, s => slot.node (hole.fill (.value (.text s)))
  | separator first others, s => .concatAll first (some s) others

def types (t : Target) : TextSpot → List DataType
  | constant type => [type]
  | constantFor e => [e.dataType]
  | operand slot _ => slot.types t
  | separator _ _ => [.varchar]

theorem dataType_node (x : TextSpot) (s r : String) :
    (x.node s).dataType = (x.node r).dataType := by
  cases x with
  | operand slot hole => exact slot.dataType_node _ _
  | _ => rfl

theorem spliced_node {ι : Type} {text q : ι → String} {t : Target}
    (ht : ∀ sql type, t.literal (.raw sql) type = sql) (x : TextSpot)
    (hx : ∀ type ∈ x.types t, Spliced q fun i => t.literal (.text (text i)) type)
    (ctx : Context) : Spliced q fun i => (x.node (text i)).sql t ctx := by
  cases x with
  | constant type =>
    simp only [node, Node.sql_constant]
    exact hx type (by simp [types])
  | constantFor e =>
    simp only [node, Node.sql_constantFor]
    exact hx _ (by simp [types])
  | operand slot hole =>
    refine slot.spliced_node ht fun type htype separator => hole.spliced_fill ?_
    simpa only [Operand.sql_value] using hx type htype
  | separator first others =>
    have h := hx .varchar (by simp [types])
    simp only [node, Node.sql_concatAll]
    exact .concatenatedAll _ (.const _) (h.othersSql others ctx.inner)

end TextSpot

/-- an expression with a hole for a text constant -/
structure TextHole where
  layers : List Layer
  place : Place
  attributes : Attributes
  spot : TextSpot

def TextHole.fill (h : TextHole) (s : String) : Expr :=
  Layer.fillAll h.layers (.mk h.place h.attributes (h.spot.node s))

theorem Builtin.literal_raw (b : Builtin) (sql : String) (type : DataType) :
    (Target.mk (some b.dialect)).literal (.raw sql) type = sql := rfl

theorem Builtin.literal_text (b : Builtin) {s : String} (hs : s ≠ "") {type : DataType}
    (h : type.isText = true ∨ type = .uniqueId ∨ type = .unknown) :
    (Target.mk (some b.dialect)).literal (.text s) type = b.quoteText s := by
  have he : (Value.text s).isEmpty = false := by simpa [Value.isEmpty] using hs
  change Literal.ofValue b.template b.quoteText (.text s) type = _
  rw [Literal.ofValue.eq_def, he]
  cases type <;> simp_all [DataType.isText, Literal.typed, Value.naturalType, Value.plain]

/-- The SQL around a text constant, and how often and where the constant stands in it, do not
depend on the text: all that shows of it is the literal between its quotes. -/
theorem sql_text_between_quotes (b : Builtin) (h : TextHole) (ctx : Context)
    (ht : ∀ type ∈ h.spot.types ⟨some b.dialect⟩,
      type.isText = true ∨ type = .uniqueId ∨ type = .unknown) :
    ∃ pieces : List String, pieces ≠ [] ∧ ∀ s : String, s ≠ "" →
      (h.fill s).sql ⟨some b.dialect⟩ ctx = (b.quoteText s).intercalate pieces := by
  let q : { s : String // s ≠ "" } → String := fun s => b.quoteText s
  have hx : ∀ type ∈ h.spot.types ⟨some b.dialect⟩,
      Spliced q fun s => (Target.mk (some b.dialect)).literal (.text s) type := by
    intro type htype
    simp only [fun s : { s : String // s ≠ "" } => b.literal_text s.2 (ht type htype)]
    exact .self
  let e : { s : String // s ≠ "" } → Expr := fun s => .mk h.place h.attributes (h.spot.node s)
  have hd (s) : (e s).dataType = (Expr.mk h.place h.attributes (h.spot.node "")).dataType :=
    h.spot.dataType_node s ""
  have he (ctx) : Spliced q fun s => (e s).sql ⟨some b.dialect⟩ ctx :=
    h.spot.spliced_node b.literal_raw hx ctx
  have hf : Spliced q fun s => (h.fill s).sql ⟨some b.dialect⟩ ctx :=
    Layer.spliced_fillAll b.literal_raw h.layers hd he ctx
  obtain ⟨pieces, hp, hs⟩ := hf.exists_pieces
  exact ⟨pieces, hp, fun s hs' => hs ⟨s, hs'⟩⟩

/-- a hole among the texts that a function replaces, in the result of a decode with a name -/
def patternHole : TextHole :=
  let column := Expr.column ⟨some "t", "name", .varchar⟩
  { layers := [⟨[0], [], .named "label"⟩,
      ⟨[1], [], .operand (.result (column [2]) [] (.ofText "?") [] none .varchar) .here⟩]
    place := [3]
    attributes := []
    spot := .operand (.param (column [4]) .replace [] [.ofText "\x7b0\x7d"] .varchar none none)
      (.item [.value .null] .here []) }

theorem sql_text_between_quotes_replace :
    (∀ type ∈ patternHole.spot.types ⟨some Builtin.oracle.dialect⟩,
      type.isText = true ∨ type = .uniqueId ∨ type = .unknown) ∧
    ∃ pieces : List String, pieces ≠ [] ∧ ∀ s : String, s ≠ "" →
      (patternHole.fill s).sql ⟨some Builtin.oracle.dialect⟩ .aliases =
        (Builtin.oracle.quoteText s).intercalate pieces :=
  have h := by decide
  ⟨h, sql_text_between_quotes .oracle patternHole .aliases h⟩

end ColumnSql
