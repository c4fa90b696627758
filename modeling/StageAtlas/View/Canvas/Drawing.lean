import StageAtlas.Text.Upper
import StageAtlas.View.Canvas.Layout
import StageAtlas.View.Color

/-!
# The drawing of the pipeline

Arrows first, then cards, in the order of the graph. All sizes grow with the zoom.
-/

namespace StageAtlas.Canvas

inductive Alignment where
  | top
  | middle
  | bottom
  deriving DecidableEq, Repr

/-- What is drawn. A text begins at its point. -/
inductive Shape where
  | fill (area : Rect) (color : Color)
  | border (area : Rect) (width : Single) (color : Color)
  | curve (points : List Point) (width : Single)
  | arrow (corners : List Point)
  | text (start : Point) (alignment : Alignment) (content : String) (size : Single) (color : Color)
  deriving DecidableEq

def Shape.content? : Shape → Option String
  | text _ _ content _ _ => some content
  | _ => none

def background : Color := .gray 10

def cardSize : Point := ⟨240, 96⟩

/-- How the pipeline is looked at: the way it was moved, and how much larger it is. -/
structure Viewport where
  pan : Point
  zoom : Single
  deriving DecidableEq

namespace Viewport

def standard : Viewport := ⟨.zero, 1⟩

/-- Where a point of the pipeline is drawn on a canvas. -/
def onScreen (viewport : Viewport) (bounds : Rect) (p : Point) : Point :=
  let origin := bounds.low + viewport.pan
  ⟨p.x * viewport.zoom + origin.x, p.y * viewport.zoom + origin.y⟩

/-- Where a card with a given corner is drawn. -/
def card (viewport : Viewport) (bounds : Rect) (corner : Point) : Rect :=
  .ofSize (viewport.onScreen bounds corner)
    ⟨cardSize.x * viewport.zoom, cardSize.y * viewport.zoom⟩

end Viewport

/-! ## Curves -/

def pieces : Nat := 32

/-- The value of a cubic curve with four given coordinates at a share of its way. -/
def cubic (t a b c d : Single) : Single :=
  let u := 1 - t
  let tt := t * t
  let uu := u * u
  let uuu := uu * u
  let ttt := tt * t
  uuu * a + 3 * uu * t * b + 3 * u * tt * c + ttt * d

def curvePoints (a b c d : Point) : List Point :=
  (List.range (pieces + 1)).map fun i =>
    let t := Binary.ofNat i / Binary.ofNat pieces
    ⟨cubic t a.x b.x c.x d.x, cubic t a.y b.y c.y d.y⟩

/-- The ends of the curve from one card to another, and the points that bend it. -/
def bend (orientation : Orientation) (source target : Rect) : Point × Point × Point × Point :=
  match orientation with
  | .vertical =>
      let start : Point := ⟨source.center.x, source.high.y⟩
      let tip : Point := ⟨target.center.x, target.low.y⟩
      let middle := (start.y + tip.y) * Rect.half
      (start, ⟨start.x, middle⟩, ⟨tip.x, middle⟩, tip)
  | .horizontal =>
      let start : Point := ⟨source.high.x, source.center.y⟩
      let tip : Point := ⟨target.low.x, target.center.y⟩
      let middle := (start.x + tip.x) * Rect.half
      (start, ⟨middle, start.y⟩, ⟨middle, tip.y⟩, tip)

/-- The head of an arrow, if its direction is finite. -/
def arrowHead (source tip : Point) (size : Single) : List Shape :=
  let direction := (tip - source).normalize
  if direction.x.isFinite && direction.y.isFinite then
    let normal : Point := ⟨-direction.y, direction.x⟩
    let base := tip - direction.scale size
    let side := (normal.scale size).scale Rect.half
    [.arrow [tip, base + side, base - side]]
  else []

def drawArrow (orientation : Orientation) (zoom : Single) (source target : Rect) : List Shape :=
  let (start, first, second, tip) := bend orientation source target
  .curve (curvePoints start first second tip) (2 * zoom) :: arrowHead second tip (8 * zoom)

/-! ## Cards -/

def badgeText (badges : Badges) : String :=
  "T " ++ toString badges.tables ++ "   A " ++ toString badges.actions ++
    "   S " ++ toString badges.states ++ "   H " ++ toString badges.headers ++
    "   E " ++ toString badges.externs

/-- The texts of a card: its kind, its name and its counts. -/
def cardTexts (node : GraphNode) (area : Rect) (zoom : Single) : List Shape :=
  let pad : Single := 10 * zoom
  [.text (area.low + ⟨pad, pad⟩) .top (Text.upper node.kind.label) (10 * zoom) (.whiteOf 200),
    .text ⟨area.low.x + pad, area.center.y⟩ .middle node.label (15 * zoom) .white,
    .text (⟨area.low.x, area.high.y⟩ + ⟨pad, -pad⟩) .bottom (badgeText node.badges) (10 * zoom)
      (.whiteOf 220)]

def drawCard (node : GraphNode) (area : Rect) (zoom : Single) (isSelected : Bool) : List Shape :=
  let border : Shape :=
    if isSelected then .border area (3 * zoom) .white else .border area (1 * zoom) (.gray 80)
  .fill area node.kind.color :: border :: cardTexts node area zoom

/-- What is told of a card that the pointer rests on. -/
def tooltip (node : GraphNode) : List String :=
  [node.label, node.kind.label ++ " stage #" ++ toString (node.orderIndex + 1),
    toString node.badges.tables ++ " table(s), " ++ toString node.badges.actions ++
      " action(s), " ++ toString node.badges.states ++ " state(s)",
    "Program: " ++ toString node.badges.headers ++ " header type(s), " ++
      toString node.badges.externs ++ " extern(s)"]

end StageAtlas.Canvas
