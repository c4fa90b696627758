import StageAtlas.Pipeline.Descriptor

/-!
# The pipeline graph

One node for each stage, and an edge from each stage to the next. Edges tell the order of the
stages and nothing else.
-/

namespace StageAtlas

/-- The counts on a node: those of its stage, and the headers and externs of the program. -/
structure Badges where
  tables : Nat
  actions : Nat
  states : Nat
  headers : Nat
  externs : Nat
  deriving DecidableEq, Repr

structure GraphNode where
  id : StageId
  label : String
  kind : StageKind
  orderIndex : Nat
  badges : Badges
  deriving DecidableEq, Repr

structure GraphEdge where
  id : EdgeId
  source : StageId
  target : StageId
  deriving DecidableEq, Repr

structure PipelineGraph where
  nodes : List GraphNode
  edges : List GraphEdge
  deriving DecidableEq, Repr

def StageDescriptor.node (registries : Registries) (stage : StageDescriptor) : GraphNode :=
  ⟨stage.id, stage.name, stage.kind, stage.orderIndex,
    ⟨stage.stats.tables, stage.stats.actions, stage.stats.states, registries.headers.length,
      registries.externs.length⟩⟩

def GraphEdge.between (source target : StageId) : GraphEdge := ⟨⟨source, target⟩, source, target⟩

namespace PipelineGraph

def chain (ids : List StageId) : List GraphEdge := List.zipWith GraphEdge.between ids ids.tail

def build (registries : Registries) (stages : List StageDescriptor) : PipelineGraph :=
  ⟨stages.map (·.node registries), chain (stages.map (·.id))⟩

def isEmpty (graph : PipelineGraph) : Bool := graph.nodes.isEmpty

def node? (graph : PipelineGraph) (id : StageId) : Option GraphNode :=
  graph.nodes.find? (·.id = id)

end PipelineGraph

def Program.graph (program : Program) : PipelineGraph :=
  .build program.registries program.descriptors

end StageAtlas
