import StageAtlas.Pipeline.Identity
import StageAtlas.Program.Basic

/-!
# The stages in pipeline order

Stages are ordered by the rank of their kind; those of one rank keep the order of the document.
-/

namespace StageAtlas

structure StageStats where
  tables : Nat
  actions : Nat
  states : Nat
  deriving DecidableEq, Repr

/-- The counts of a stage; an absent list counts as empty. -/
def Stage.stats (stage : Stage) : StageStats :=
  ⟨stage.tables.length, stage.actionList.length, stage.stateList.length⟩

structure StageDescriptor where
  id : StageId
  name : String
  kind : StageKind
  orderIndex : Nat
  stats : StageStats
  deriving DecidableEq, Repr

def Stage.descriptor (stage : Stage) (orderIndex : Nat) : StageDescriptor :=
  ⟨⟨stage.name⟩, stage.name, stage.kind, orderIndex, stage.stats⟩

def Stage.precedes (a b : Stage) : Bool := a.kind.rank ≤ b.kind.rank

def Stage.inOrder (stages : List Stage) : List Stage := stages.mergeSort Stage.precedes

def Program.descriptors (program : Program) : List StageDescriptor :=
  (Stage.inOrder program.stages).mapIdx fun index stage => stage.descriptor index

@[simp] theorem Program.descriptors_empty : Program.empty.descriptors = [] := by
  simp [descriptors, Stage.inOrder, Program.empty]

end StageAtlas
