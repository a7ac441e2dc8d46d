import ColumnSql.Proofs.Expr.Context

/-! Expressions with a hole in them. A frame is a node without one of its parts, and frames around
each other lead from the root of an expression to a hole at any depth. What fills the hole shows in
the SQL of the whole by its type and its SQL only. -/

namespace ColumnSql

/-- an operand with a hole for an operand: itself, or an item of a list -/
inductive OperandHole
  | here
  | item (before : List Operand) (inside : OperandHole) (after : List Operand)

def OperandHole.fill : OperandHole → Operand → Operand
  | here, v => v
  | item before inside after, v => .list (before ++ inside.fill v :: after)

/-- a node without one of its operands -/
inductive Slot
  | arithRight (left : Expr) (op : Operator)
  | concatRight (left : Expr)
  | param (operand : Expr) (p : Phrase) (before after : List Operand) (type : DataType)
      (update : Option Column) (dataType : Option DataType)
  | key (condition : Expr) (before : List Branch) (result : Operand) (after : List Branch)
      (otherwise : Option Operand) (type : DataType)
  | result (condition : Expr) (before : List Branch) (key : Operand) (after : List Branch)
      (otherwise : Option Operand) (type : DataType)
  | fallback (condition : Expr) (branches : List Branch) (type : DataType)

def Slot.node : Slot → Operand → Node
  | arithRight e op, v => .arith e op v
  | concatRight e, v => .concat e v
  | param e p before after type update t, v => .phrase e p (before ++ v :: after) type update t
  | key e before x after otherwise t, v => .decode e (before ++ .mk v x :: after) otherwise t
  | result e before k after otherwise t, v => .decode e (before ++ .mk k v :: after) otherwise t
  | fallback e branches t, v => .decode e branches (some v) t

/-- a node without one of its expressions -/
inductive Frame
  | column (v : Value)
  | arithLeft (op : Operator) (right : Operand)
  | concatLeft (right : Operand)
  | concatFirst (separator : Option String) (others : List Expr)
  | concatOther (first : Expr) (separator : Option String) (before after : List Expr)
  | wrap (before after : String) (update : Option Column) (aggregate : Bool)
      (dataType : Option DataType)
  | phrase (p : Phrase) (params : List Operand) (type : DataType) (update : Option Column)
      (dataType : Option DataType)
  | convert (dest : DataType) (format : Option String)
  | call (before after : String) (update : Option Column)
  | callFirst (before between : String) (second : Expr) (after : String) (update : Option Column)
  | callSecond (before : String) (first : Expr) (between after : String) (update : Option Column)
  | condition (branches : List Branch) (otherwise : Option Operand) (type : DataType)
  | named (name : String)
  | operand (slot : Slot) (hole : OperandHole)

def Frame.node : Frame → Expr → Node
  | column v, e => .constantFor e v
  | arithLeft op v, e => .arith e op v
  | concatLeft v, e => .concat e v
  | concatFirst separator others, e => .concatAll e separator others
  | concatOther first separator before after, e => .concatAll first separator (before ++ e :: after)
  | wrap before after update aggregate t, e => .wrap e before after update aggregate t
  | phrase p params type update t, e => .phrase e p params type update t
  | convert dest format, e => .convert e dest format
  | call before after update, e => .call before e after update
  | callFirst before between second after update, e =>
    .callTwo before e between second after update
  | callSecond before first between after update, e => .callTwo before first between e after update
  | condition branches otherwise t, e => .decode e branches otherwise t
  | named name, e => .named e name
  | operand slot hole, e => slot.node (hole.fill (.expr e))

/-- an expression without one of its parts -/
structure Layer where
  place : Place
  attributes : Attributes
  frame : Frame

def Layer.fill (l : Layer) (e : Expr) : Expr := .mk l.place l.attributes (l.frame.node e)

/-- the expression with `e` in the hole that the layers, from the root on, lead to -/
def Layer.fillAll (ls : List Layer) (e : Expr) : Expr := ls.foldr Layer.fill e

theorem OperandHole.sql_fill_congr (h : OperandHole) {v w : Operand} {t : Target} {ctx : Context}
    (hv : ∀ type separator, v.sql type separator t ctx = w.sql type separator t ctx)
    (type : DataType) (separator : String) :
    (h.fill v).sql type separator t ctx = (h.fill w).sql type separator t ctx := by
  induction h with
  | here => exact hv type separator
  | item before inside after ih => simp [fill, ih]

theorem Slot.sql_node_congr (s : Slot) {v w : Operand} {t : Target} {ctx : Context}
    (hv : ∀ type separator, v.sql type separator t ctx.inner = w.sql type separator t ctx.inner) :
    (s.node v).sql t ctx = (s.node w).sql t ctx := by
  have hf : Operand.textFor t ctx.inner v = Operand.textFor t ctx.inner w :=
    funext fun type => hv type ", "
  cases s <;>
    simp [node, hv, hf, Branch.allSql, Branch.sql, Operand.elseSql, Branch.key, Branch.result]

theorem Slot.dataType_node (s : Slot) (v w : Operand) :
    (s.node v).dataType = (s.node w).dataType := by
  cases s <;> rfl

/-- Of a part, the type of the whole depends on the type only. -/
theorem Frame.dataType_node_congr (f : Frame) {a b : Expr} (h : a.dataType = b.dataType) :
    (f.node a).dataType = (f.node b).dataType := by
  cases f with
  | operand s hole => exact s.dataType_node (hole.fill (.expr a)) (hole.fill (.expr b))
  | _ => simp [node, Node.dataType, h]

theorem Frame.sql_node_congr (f : Frame) {a b : Expr} {t : Target} {ctx : Context}
    (h : a.dataType = b.dataType) (hs : a.sql t ctx.inner = b.sql t ctx.inner) :
    (f.node a).sql t ctx = (f.node b).sql t ctx := by
  cases f with
  | named name =>
    by_cases ha : ctx.has .aliases
    · simp [node, ha, hs]
    · have ha : ctx.has .aliases = false := by simpa using ha
      rw [a.sql_inner t ha, b.sql_inner t ha] at hs
      simp [node, ha, hs]
  | concatOther first separator before after =>
    have : Expr.othersSql (before ++ a :: after) separator t ctx.inner =
        Expr.othersSql (before ++ b :: after) separator t ctx.inner := by
      funext connector
      simp [Expr.othersSql, hs]
    simp [node, this]
  | operand s hole =>
    refine s.sql_node_congr (hole.sql_fill_congr fun type separator => ?_)
    simp [hs]
  | _ => simp [node, h, hs]

namespace Layer

theorem dataType_fillAll_congr (ls : List Layer) {a b : Expr} (h : a.dataType = b.dataType) :
    (fillAll ls a).dataType = (fillAll ls b).dataType := by
  induction ls with
  | nil => exact h
  | cons l r ih => exact l.frame.dataType_node_congr ih

/-- Strictly below the root, only the type and the SQL of a part show, and the SQL is the one
without aliases. -/
theorem sql_fillAll_congr (l : Layer) (ls : List Layer) {a b : Expr} {t : Target} {ctx : Context}
    (h : a.dataType = b.dataType) (hs : a.sql t ctx.inner = b.sql t ctx.inner) :
    (fillAll (l :: ls) a).sql t ctx = (fillAll (l :: ls) b).sql t ctx := by
  induction ls generalizing l ctx with
  | nil => exact l.frame.sql_node_congr h hs
  | cons m r ih =>
    refine l.frame.sql_node_congr (dataType_fillAll_congr (m :: r) h) (ih m ?_)
    rwa [Context.inner_inner]

end Layer

end ColumnSql
