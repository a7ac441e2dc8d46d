import ColumnSql.Context
import ColumnSql.Expr.Metadata
import ColumnSql.SqlBuffer

/-! The SQL of expressions. Parts are written in the inner context, so that only an expression which
is no part of another is followed by its alias. -/

namespace ColumnSql

open Template

def Column.write (c : Column) (ctx : Context) (out : SqlBuffer) : SqlBuffer :=
  match ctx.has .fullName, c.table with
  | true, some t => ((out.append (out.target.name t)).append ".").append (out.target.name c.name)
  | _, _ => out.append (out.target.name c.name)

def writeSeparator (separator : Option String) (connector : String) (out : SqlBuffer) : SqlBuffer :=
  match separator with
  | none => out
  | some s => (out.append (out.target.literal (.text s) .varchar)).append connector

/-- `before ? after` with `value` in the first `{0}` after the `?`, or at the end if there is none;
without a `?` the template stands between the two -/
def SqlBuffer.fillConcat (out : SqlBuffer) (template : String) (left : SqlBuffer → SqlBuffer)
    (right : String → SqlBuffer → SqlBuffer) : SqlBuffer :=
  match Text.splitFirst ['?'] template.toList with
  | none => right template ((left out).append template)
  | some (before, rest) =>
    let out := left (out.append (String.ofList before))
    match Text.splitFirst ['\x7b', '0', '\x7d'] rest with
    | none => right ", " (out.append (String.ofList rest))
    | some (middle, after) =>
      (right ", " (out.append (String.ofList middle))).append (String.ofList after)

/-- the parameters in their placeholders, null where there is none -/
def Target.argument (t : Target) (params : List (DataType → String)) (type : DataType)
    (p : Placeholder) : String :=
  match p.index.bind fun i => params[i]? with
  | some text => text (p.hint.getD type)
  | none => t.phrase .null

mutual

def Expr.write : Expr → Context → SqlBuffer → SqlBuffer
  | .mk _ _ n => n.write

def Node.write : Node → Context → SqlBuffer → SqlBuffer
  | .column c, ctx, out => c.write ctx out
  | .constant v t, _, out => out.append (out.target.literal v t)
  | .constantFor c v, _, out => out.append (out.target.literal v c.dataType)
  | .arith e op v, ctx, out =>
    v.write e.dataType ctx.inner op.symbol ((e.write ctx.inner out).append op.symbol)
  | .concat e v, ctx, out =>
    out.fillConcat (out.target.phrase .concatExpr) (fun out => e.write ctx.inner out)
      fun separator out => v.write .varchar ctx.inner separator out
  | .concatAll e separator others, ctx, out =>
    let template := out.target.phrase .concat
    match Text.splitFirst ['?'] template.toList with
    | none => Expr.writeOthers others ctx.inner template separator (e.write ctx.inner out)
    | some (before, after) =>
      (Expr.writeOthers others ctx.inner ", " separator
        (e.write ctx.inner (out.append (String.ofList before)))).append (String.ofList after)
  | .wrap e before after _ _ _, ctx, out => (e.write ctx.inner (out.append before)).append after
  | .phrase e p params type _ _, ctx, out =>
    let texts := Operand.texts params ctx.inner out.target
    out.fill (out.target.phrase p) (out.target.argument texts type) fun out => e.write ctx.inner out
  | .convert e dest format, ctx, out =>
    out.fill (out.target.conversion dest e.dataType format) (out.target.argument [] .unknown)
      fun out => e.write ctx.inner out
  | .call before e after _, ctx, out => (e.write ctx.inner (out.append before)).append after
  | .callTwo before a between b after _, ctx, out =>
    (b.write ctx.inner ((a.write ctx.inner (out.append before)).append between)).append after
  | .decode e branches otherwise t, ctx, out =>
    let target := out.target
    let cases := Branch.cases branches e.dataType t ctx.inner target
    let last :=
      match otherwise with
      | none => ""
      | some v =>
        target.phrase .decodeSeparator ++
          substitute (fun _ => (v.write t ctx.inner ", " (.empty target)).text)
            (target.phrase .decodeElse).toList
    out.fill (target.phrase .decode)
      (target.argument [target.literal (.raw (cases ++ last))] .unknown)
      fun out => e.write ctx.inner out
  | .named e name, ctx, out =>
    if ctx.has .aliases then
      let out := e.write ctx.inner out
      (out.append (out.target.phrase .renameColumn)).append (out.target.identifier name)
    else e.write ctx out

/-- a constant as a literal of type `t`; `separator` stands between the items of a list -/
def Operand.write : Operand → DataType → Context → String → SqlBuffer → SqlBuffer
  | .expr e, _, ctx, _, out => e.write ctx out
  | .value v, t, _, _, out => out.append (out.target.literal v t)
  | .list [], _, _, _, out => out
  | .list (x :: r), t, ctx, separator, out =>
    Operand.writeOthers r t ctx separator (x.write t ctx separator out)

def Operand.writeOthers : List Operand → DataType → Context → String → SqlBuffer → SqlBuffer
  | [], _, _, _, out => out
  | x :: r, t, ctx, separator, out =>
    Operand.writeOthers r t ctx separator (x.write t ctx separator (out.append separator))

def Expr.writeOthers : List Expr → Context → String → Option String → SqlBuffer → SqlBuffer
  | [], _, _, _, out => out
  | e :: r, ctx, connector, separator, out =>
    Expr.writeOthers r ctx connector separator
      (e.write ctx (writeSeparator separator connector (out.append connector)))

def Operand.texts : List Operand → Context → Target → List (DataType → String)
  | [], _, _ => []
  | x :: r, ctx, target =>
    (fun t => (x.write t ctx ", " (.empty target)).text) :: Operand.texts r ctx target

/-- the cases of a decode, each after the separator; keys have type `k` and results type `t` -/
def Branch.cases : List Branch → DataType → DataType → Context → Target → String
  | [], _, _, _, _ => ""
  | .mk key result :: r, k, t, ctx, target =>
    let keyText := (key.write k ctx ", " (.empty target)).text
    let resultText := (result.write t ctx ", " (.empty target)).text
    target.phrase .decodeSeparator ++
      substitute
        (fun p =>
          if p.index = some 0 then keyText else if p.index = some 1 then resultText else "")
        (target.phrase .decodePart).toList ++
      Branch.cases r k t ctx target

end

def Expr.sql (e : Expr) (target : Target) (ctx : Context) : String :=
  (e.write ctx (.empty target)).text

def Operand.sql (v : Operand) (t : DataType) (separator : String) (target : Target)
    (ctx : Context) : String :=
  (v.write t ctx separator (.empty target)).text

end ColumnSql
