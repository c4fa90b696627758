import StageAtlas.Program.Basic

/-!
# References to tables

A stage refers to tables by name. A name without an entry is no error: it resolves to nothing.
-/

namespace StageAtlas.Registries

def table? (registries : Registries) (name : String) : Option Table := registries.tables.get? name

/-- The tables that the names refer to, in the order of the names; names without a table drop
out. -/
def resolve (registries : Registries) (names : List String) : List (String × Table) :=
  names.filterMap fun name => (registries.table? name).map fun table => (name, table)

@[simp] theorem resolve_nil (registries : Registries) : registries.resolve [] = [] := rfl

end StageAtlas.Registries
