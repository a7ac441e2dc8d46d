/-! What is asked of a rendering: a set of flags in a word of 32 bits. -/

namespace ColumnSql

/-- flags of a rendering; those without a meaning here are kept -/
structure Context where
  bits : UInt32
deriving DecidableEq

namespace Context

def name : Context := ⟨1⟩

def fullName : Context := ⟨2⟩

def value : Context := ⟨4⟩

def aliases : Context := ⟨8⟩

def noParentheses : Context := ⟨16⟩

/-- the context where none is asked for: name, full name and value -/
def standard : Context := ⟨7⟩

def has (a b : Context) : Bool := a.bits &&& b.bits == b.bits

def set (a b : Context) : Context := ⟨a.bits ||| b.bits⟩

def clear (a b : Context) : Context := ⟨a.bits &&& ~~~b.bits⟩

def common (a b : Context) : Context := ⟨a.bits &&& b.bits⟩

def complement (a : Context) : Context := ⟨~~~a.bits⟩

/-- the context of the parts of an expression, which are no select items -/
def inner (a : Context) : Context := a.clear aliases

def flags : List (Context × String) :=
  [(name, "NAME"), (fullName, "FULLNAME"), (value, "VALUE"), (aliases, "ALIAS"),
    (noParentheses, "NOPARENTHESES")]

def text (a : Context) : String :=
  "Context(" ++ " | ".intercalate ((flags.filter fun f => a.has f.1).map (·.2)) ++ ")"

theorem clear_clear (a b : Context) : (a.clear b).clear b = a.clear b := by
  simp [clear, UInt32.and_assoc]

theorem inner_inner (a : Context) : a.inner.inner = a.inner := clear_clear a aliases

theorem has_aliases_inner (a : Context) : a.inner.has aliases = false := by
  simp [has, inner, clear, aliases, UInt32.and_assoc]

theorem has_fullName_inner (a : Context) : a.inner.has fullName = a.has fullName := by
  have h : (~~~8 &&& 2 : UInt32) = 2 := by decide
  simp [has, inner, clear, aliases, fullName, UInt32.and_assoc, h]

end Context

end ColumnSql
