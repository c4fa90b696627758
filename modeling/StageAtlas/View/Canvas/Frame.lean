import StageAtlas.View.Canvas.Drawing
import StageAtlas.View.Request

/-!
# One frame of the canvas

A frame takes what the pointer did, moves and zooms the viewport, and draws the pipeline. A click
on a card asks for the card, a double click elsewhere for the viewport as it was at first, and a
click elsewhere for no selection.
-/

namespace StageAtlas.Canvas

/-- A click: where the pointer went down and where it came up, and whether it is the second of two.
A key that stands for the pointer clicks without a place. -/
structure Click where
  start : Option Point
  tip : Option Point
  twice : Bool

/-- What the pointer did in a frame: where it rests, how it clicked, how it dragged the pipeline,
and how far the wheel turned. -/
structure PointerInput where
  rest : Option Point
  click : Option Click
  drag : Option Point
  wheel : Single

namespace PointerInput

def absent : PointerInput := ⟨none, none, none, 0⟩

def resting (p : Point) : PointerInput := { absent with rest := some p }

def clicking (p : Point) (twice : Bool) : PointerInput :=
  { absent with rest := some p, click := some ⟨some p, some p, twice⟩ }

/-- The click that a canvas is told of, which may end beside it. One that begins elsewhere does not
concern it. -/
def clickOn (input : PointerInput) (bounds : Rect) : Option Click :=
  input.click.filter fun click => click.start.all bounds.contains

end PointerInput

inductive DragButton where
  | primary
  | middle
  deriving DecidableEq, Repr

/-- The farthest that the pointer may move between press and release of a click. -/
def clickReach : Single := 6

/-- A press, a move and a release, as far as a canvas is concerned. What begins elsewhere does not
concern it. A pointer that hardly moves clicks; else the middle button drags the pipeline, and so
does the primary one together with the shift key. -/
def gesture (bounds : Rect) (button : DragButton) (shift : Bool) (start tip : Point) :
    PointerInput :=
  let way := tip - start
  if !bounds.contains start then .absent
  else if way.length.le clickReach then
    if button = .primary then
      { PointerInput.absent with rest := some tip, click := some ⟨some start, some tip, false⟩ }
    else .absent
  else if button = .middle ∨ shift then { PointerInput.absent with drag := some way }
  else .absent

def leastZoom : Single := Binary.ofRatio false 1 4

def greatestZoom : Single := 4

/-- How much the zoom grows with each point of the wheel. -/
def wheelShare : Single := Binary.ofRatio false 2 1000

/-- The viewport after what the pointer did. The wheel counts only over the canvas. -/
def Viewport.follow (viewport : Viewport) (bounds : Rect) (input : PointerInput) : Viewport :=
  let pan := (input.drag.map (viewport.pan + ·)).getD viewport.pan
  let isOver := input.rest.any bounds.contains
  if isOver && !input.wheel.isZero then
    ⟨pan, (viewport.zoom * (1 + input.wheel * wheelShare)).clamp leastZoom greatestZoom⟩
  else ⟨pan, viewport.zoom⟩

structure Card where
  node : GraphNode
  area : Rect

/-- The card of a node, if the node has a place and its card touches the canvas. -/
def card? (positions : List (StageId × Point)) (viewport : Viewport) (bounds : Rect)
    (node : GraphNode) : Option Card :=
  match positions.lookup node.id with
  | none => none
  | some corner =>
      let area := viewport.card bounds corner
      if bounds.intersects area then some ⟨node, area⟩ else none

/-- The cards that touch the canvas, in the order of the graph. -/
def cards (graph : PipelineGraph) (layout : Layout) (viewport : Viewport) (bounds : Rect) :
    List Card :=
  let positions := layout.positions graph
  graph.nodes.filterMap (card? positions viewport bounds)

def arrows (graph : PipelineGraph) (layout : Layout) (viewport : Viewport) (bounds : Rect) :
    List Shape :=
  let positions := layout.positions graph
  graph.edges.flatMap fun edge =>
    match positions.lookup edge.source, positions.lookup edge.target with
    | some source, some target =>
        drawArrow layout.orientation viewport.zoom (viewport.card bounds source)
          (viewport.card bounds target)
    | _, _ => []

/-- The stage whose card holds a point. A card is drawn above those before it, so it takes the place
of what was found among them. -/
def cardAt? (cards : List Card) (p : Point) : Option StageId :=
  cards.foldl (fun found card => if card.area.contains p then some card.node.id else found) none

def requests (cards : List Card) (selected : Option StageId) (click : Option Click) :
    List Request :=
  match (click.bind (·.tip)).bind (cardAt? cards) with
  | some id => [.explore (.selectStage id)]
  | none =>
      if click.any (·.twice) then [.resetCanvas]
      else if click.isSome && selected.isSome then [.explore .clearSelection]
      else []

/-- What comes of a frame: the viewport after it, which stage the pointer rests on, what is told of
it, and what is asked for. -/
structure Response where
  viewport : Viewport
  hovered : Option StageId
  tooltip : List String
  requests : List Request

def Response.request (response : Response) : Option Request := response.requests.head?

def respond (viewport : Viewport) (graph : PipelineGraph) (cards : List Card)
    (selected : Option StageId) (bounds : Rect) (input : PointerInput) : Response :=
  let hovered := (input.rest.filter bounds.contains).bind (cardAt? cards)
  { viewport
    hovered
    tooltip := ((hovered.bind graph.node?).map tooltip).getD []
    requests := requests cards selected (input.clickOn bounds) }

def draw (viewport : Viewport) (graph : PipelineGraph) (cards : List Card)
    (selected : Option StageId) (layout : Layout) (bounds : Rect) : List Shape :=
  .fill bounds background :: arrows graph layout viewport bounds ++
    cards.flatMap fun card =>
      drawCard card.node card.area viewport.zoom (selected == some card.node.id)

structure Frame extends Response where
  shapes : List Shape

/-- The texts of a frame in the order in which they are painted. -/
def Frame.texts (frame : Frame) : List String :=
  frame.shapes.filterMap Shape.content? ++ frame.tooltip

def frame (viewport : Viewport) (graph : PipelineGraph) (selected : Option StageId)
    (layout : Layout) (bounds : Rect) (input : PointerInput) : Frame :=
  let viewport := viewport.follow bounds input
  let cards := cards graph layout viewport bounds
  { respond viewport graph cards selected bounds input with
    shapes := draw viewport graph cards selected layout bounds }

end StageAtlas.Canvas
