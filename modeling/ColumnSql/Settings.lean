import ColumnSql.Context
import ColumnSql.Dialect.PhraseTable
import ColumnSql.Toml.Reader

/-! Settings: the dialect with its own templates, the flags of renderings and the log. -/

namespace ColumnSql

abbrev KeyedTemplates := { l : List (String × String) // l.Pairwise fun x y => x.1 < y.1 }

structure Settings where
  base : String
  phrases : List (String × String)
  /-- The keys are in order, each once. -/
  ordered : phrases.Pairwise fun x y => x.1 < y.1
  aliases : Bool
  fullNames : Bool
  level : String

inductive SettingsError
  | notFound (path : String)
  | unreadable (reason : String)
  | malformed
  | unknownDialect (name : String)
  | unknownPhrase (key : String)
  | invalidPhrase (e : ExprError)

def SettingsError.message : SettingsError → String
  | notFound path => "Config file not found: " ++ path
  | unreadable reason => "Failed to read config file: " ++ reason
  | malformed => "Failed to parse config file"
  | unknownDialect name => "Unknown dialect: " ++ name
  | unknownPhrase key => "Unknown phrase key: " ++ key
  | invalidPhrase e => "Invalid phrase override: " ++ e.message

namespace Settings

/-- the settings without a file -/
def standard : Settings := ⟨Builtin.generic.name, [], .nil, false, true, "warn"⟩

/-- The fields of a section. An array has them in the order of their names. -/
def section? (names : List String) : Toml.Value → Option Toml.Entries
  | .array items => some (names.zip items)
  | .tables last before => some (names.zip (before.reverse ++ [.table .header last]))
  | v => v.entries?

def field? {α : Type} (t : Toml.Entries) (name : String) (default : α)
    (read : Toml.Value → Option α) : Option α :=
  match t.find? name with
  | none => some default
  | some v => read v

def text? : Toml.Value → Option String
  | .string s => some s
  | _ => none

def flag? : Toml.Value → Option Bool
  | .bool b => some b
  | _ => none

def insert (key template : String) : List (String × String) → List (String × String)
  | [] => [(key, template)]
  | x :: r =>
    if key < x.1 then (key, template) :: x :: r
    else if key = x.1 then (key, template) :: r
    else x :: insert key template r

theorem eq_or_mem_of_mem_insert {key template : String} {l : List (String × String)}
    {y : String × String} (h : y ∈ insert key template l) : y = (key, template) ∨ y ∈ l := by
  induction l with
  | nil => exact .inl (List.mem_singleton.1 h)
  | cons x r ih =>
    rw [insert] at h
    split at h
    · exact List.mem_cons.1 h
    · split at h
      · exact (List.mem_cons.1 h).imp_right (List.mem_cons_of_mem x)
      · rcases List.mem_cons.1 h with rfl | h
        · exact .inr (List.mem_cons_self ..)
        · exact (ih h).imp_right (List.mem_cons_of_mem x)

theorem pairwise_insert (key template : String) {l : List (String × String)}
    (h : l.Pairwise fun x y => x.1 < y.1) :
    (insert key template l).Pairwise fun x y => x.1 < y.1 := by
  induction l with
  | nil => exact List.pairwise_singleton ..
  | cons x r ih =>
    obtain ⟨hx, hr⟩ := List.pairwise_cons.1 h
    rw [insert]
    split
    next hk =>
      have hy : ∀ y ∈ r, key < y.1 := fun y hy => String.lt_trans hk (hx y hy)
      exact List.pairwise_cons.2 ⟨List.forall_mem_cons.2 ⟨hk, hy⟩, h⟩
    next hk =>
      split
      next he => exact List.pairwise_cons.2 ⟨he ▸ hx, hr⟩
      next he =>
        have hk : x.1 < key :=
          String.not_le.1 fun hl => he (String.le_antisymm hl (String.not_lt.1 hk))
        refine List.pairwise_cons.2 ⟨fun y hy => ?_, ih hr⟩
        rcases eq_or_mem_of_mem_insert hy with rfl | hy
        · exact hk
        · exact hx y hy

def templates? (v : Toml.Value) : Option KeyedTemplates := do
  (← v.entries?).foldlM
    (fun done x => (text? x.2).map fun s =>
      ⟨insert x.1 s done.1, pairwise_insert x.1 s done.2⟩)
    ⟨[], .nil⟩

/-- the settings of a table; other keys are passed over -/
def ofEntries? (t : Toml.Entries) : Option Settings := do
  let dialect ← field? t "dialect" [] (section? ["base", "phrases"])
  let render ← field? t "render" [] (section? ["alias", "full_names"])
  let log ← field? t "log" [] (section? ["level"])
  let phrases ← field? dialect "phrases" ⟨standard.phrases, standard.ordered⟩ templates?
  return {
    base := ← field? dialect "base" standard.base text?
    phrases := phrases.1
    ordered := phrases.2
    aliases := ← field? render "alias" standard.aliases flag?
    fullNames := ← field? render "full_names" standard.fullNames flag?
    level := ← field? log "level" standard.level text? }

def read (s : String) : Except SettingsError Settings :=
  match (Toml.read? s).bind ofEntries? with
  | some t => .ok t
  | none => .error .malformed

def baseDialect (t : Settings) : Except SettingsError Builtin :=
  match Builtin.ofName? t.base with
  | some b => .ok b
  | none => .error (.unknownDialect t.base)

def override (x : String × String) : Except SettingsError (Phrase × String) :=
  match Phrase.ofKey? x.1 with
  | some p => .ok (p, x.2)
  | none => .error (.unknownPhrase x.1)

/-- the table of the base with the templates of the settings in order of their keys -/
def table (t : Settings) : Except SettingsError PhraseTable := do
  let base ← t.baseDialect
  match PhraseTable.ofOverrides base (← t.phrases.mapM override) with
  | .ok table => return table
  | .error e => throw (.invalidPhrase e)

def context (t : Settings) : Context :=
  let ctx := Context.name.set .value
  let ctx := if t.fullNames then ctx.set .fullName else ctx
  if t.aliases then ctx.set .aliases else ctx

end Settings

end ColumnSql
