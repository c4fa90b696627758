import StageAtlas.Application.View

/-!
# One frame of the window

All views of a frame are drawn from one state, and what they ask for is carried out after the last
of them. A user may click labels in several views, and use the pointer on the canvas besides.
-/

namespace StageAtlas.Application

/-- The views of the window. The canvas lies beneath the labels in the middle. -/
inductive Pane where
  | menuBar
  | statusBar
  | detailPanel
  | central
  | canvas
  deriving DecidableEq, Repr

def Pane.all : List Pane := [menuBar, statusBar, detailPanel, central, canvas]

/-- What a user does to the views of a frame: which labels are clicked, by their places in each
view, and what the pointer does on a canvas of a given extent. -/
structure Handling where
  clicks : Pane → List Nat
  bounds : Rect
  pointer : Canvas.PointerInput

/-- The labels of a view. An open menu belongs to the menu bar. -/
def labels (app : Application) (time : String) : Pane → List Label
  | .menuBar => MenuBar.bar (app.session.loaded.map (·.title)) ++ app.menuItems
  | .statusBar => StatusBar.view app.statusContent
  | .detailPanel => app.panel
  | .central => app.central time
  | .canvas => []

def canvasFrame? (app : Application) (handling : Handling) : Option Canvas.Frame :=
  app.shownPipeline?.map fun loaded =>
    Canvas.frame app.viewport loaded.graph app.session.explorer.selected app.preferences.layout
      handling.bounds handling.pointer

def asked (app : Application) (time : String) (handling : Handling) : Pane → List Request
  | .canvas => ((app.canvasFrame? handling).map (·.requests)).getD []
  | pane =>
      Label.requests ((handling.clicks pane).filterMap fun place => (app.labels time pane)[place]?)

def requests (app : Application) (time : String) (handling : Handling) : List Request :=
  Pane.all.flatMap (app.asked time handling)

/-- The application after a frame: the canvas has followed the pointer, and all requests of the
views are carried out. What labels fold away and which menu they open is not its business. -/
def use (app : Application) (time : String) (handling : Handling) : Application :=
  let viewport := ((app.canvasFrame? handling).map (·.viewport)).getD app.viewport
  { app with viewport }.handleAll (app.requests time handling)

end StageAtlas.Application
