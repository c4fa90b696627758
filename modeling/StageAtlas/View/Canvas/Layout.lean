import StageAtlas.Keyed
import StageAtlas.Pipeline.Graph
import StageAtlas.Preferences.Basic
import StageAtlas.View.Geometry

/-!
# The layout of the pipeline

Cards stand in one line, each at a multiple of the distance that its place in the pipeline gives.
-/

namespace StageAtlas.Layout

/-- The room before the first card, and beside all. -/
def margin : Single := 40

/-- The distance of a card from the first one. -/
def offset (layout : Layout) (orderIndex : Nat) : Single :=
  Binary.ofNat orderIndex * layout.spacing

def corner (layout : Layout) (orderIndex : Nat) : Point :=
  match layout.orientation with
  | .vertical => ⟨margin, margin + layout.offset orderIndex⟩
  | .horizontal => ⟨margin + layout.offset orderIndex, margin⟩

def positions (layout : Layout) (graph : PipelineGraph) : List (StageId × Point) :=
  Keyed.collapse (graph.nodes.map fun node => (node.id, layout.corner node.orderIndex))

end StageAtlas.Layout
