import StageAtlas.Pipeline.Descriptor

/-!
# The counts of a whole program
-/

namespace StageAtlas

/-- What a program counts: its stages, its registries, and the actions of all its stages. -/
structure Overview where
  stages : Nat
  tables : Nat
  headers : Nat
  actions : Nat
  externs : Nat
  deriving DecidableEq, Repr

def Overview.of (registries : Registries) (stages : List StageDescriptor) : Overview :=
  ⟨stages.length, registries.tables.size, registries.headers.length,
    stages.foldl (fun sum stage => sum + stage.stats.actions) 0, registries.externs.length⟩

def Program.overview (program : Program) : Overview :=
  .of program.registries program.descriptors

end StageAtlas
