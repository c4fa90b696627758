import StageAtlas.Application.State
import StageAtlas.View.DetailPanel
import StageAtlas.View.MenuBar
import StageAtlas.View.OverviewPage
import StageAtlas.View.StatusBar

/-!
# The window

All labels of the window in the order in which they are painted: the menu bar, the status bar, the
detail panel, what fills the middle, and the items of an open menu above all.
-/

namespace StageAtlas.Application

def notLoadedText : String := "Open a P4 program structure to visualize."

def emptyProgramText : String := "The loaded program contains no stages."

/-- The area of the canvas, which is larger than any pipeline. -/
def canvasArea : Rect := .ofSize .zero ⟨4000, 20000⟩

def statusContent (app : Application) : StatusBar.Content :=
  ⟨app.session.status, app.session.loaded.map (·.title), app.session.stages.length,
    app.session.selectedStage?.map (·.1.name), 0 < app.pendingLoads, app.lastError⟩

def panel (app : Application) : List Label :=
  match app.session.detail?, app.session.selectedStage? with
  | some detail, some (stage, _) => DetailPanel.view app.folds stage detail
  | _, _ => []

def cards (app : Application) (loaded : LoadedProgram) : List Canvas.Card :=
  Canvas.cards loaded.graph app.preferences.layout app.viewport canvasArea

def canvasResponse (app : Application) (loaded : LoadedProgram) (input : Canvas.PointerInput) :
    Canvas.Response :=
  let viewport := app.viewport.follow canvasArea input
  Canvas.respond viewport loaded.graph
    (Canvas.cards loaded.graph app.preferences.layout viewport canvasArea)
    app.session.explorer.selected canvasArea input

/-- About where the middle of a text is: letters are taken to be half as wide as they are high. -/
def aim (start : Point) (alignment : Canvas.Alignment) (content : String) (size : Single) :
    Point :=
  let halfWidth := Binary.ofNat content.length * size / 4
  let halfHeight := size / 2
  ⟨start.x + halfWidth,
    match alignment with
    | .top => start.y + halfHeight
    | .middle => start.y
    | .bottom => start.y - halfHeight⟩

/-- A text on the canvas. A click on it clicks the canvas there. -/
def canvasLabel (app : Application) (loaded : LoadedProgram) : Canvas.Shape → Option Label
  | .text start alignment content size _ =>
      let spot := aim start alignment content size
      some ⟨content, .canvas spot, (app.canvasResponse loaded (.resting spot)).tooltip⟩
  | _ => none

def cardLabels (app : Application) (loaded : LoadedProgram) : List Label :=
  (app.cards loaded).flatMap fun card =>
    (Canvas.cardTexts card.node card.area app.viewport.zoom).filterMap (app.canvasLabel loaded)

/-- The program whose pipeline fills the middle of the window, if one does. -/
def shownPipeline? (app : Application) : Option LoadedProgram :=
  app.session.loaded.filter fun _ =>
    app.session.status = .loaded ∧ app.session.explorer.mode = .pipeline

/-- What fills the middle of the window. The time at which a program was loaded is told by a
clock that is not part of the state. -/
def central (app : Application) (time : String) : List Label :=
  match app.session.loaded with
  | none => [.plain notLoadedText]
  | some loaded =>
      if app.session.status = .loadedEmpty then [.plain emptyProgramText]
      else
        match app.session.explorer.mode with
        | .pipeline => app.cardLabels loaded
        | .overview => OverviewPage.view loaded.title time loaded.overview loaded.stages

def menuItems (app : Application) : List Label :=
  match app.openMenu with
  | none => []
  | some menu =>
      MenuBar.items (app.session.status != .notLoaded) app.preferences.appearance.darkMode menu

def view (app : Application) (time : String) : List Label :=
  MenuBar.bar (app.session.loaded.map (·.title)) ++ StatusBar.view app.statusContent ++
    app.panel ++ app.central time ++ app.menuItems

end StageAtlas.Application
