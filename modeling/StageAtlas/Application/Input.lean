import StageAtlas.Application.View

/-!
# Input to the window

What clicks, keys and dropped files ask for. Any click and the escape key close an open menu.
-/

namespace StageAtlas.Application

/-- The keys that are held while another is pressed. -/
structure Modifiers where
  control : Bool
  shift : Bool
  alt : Bool
  deriving DecidableEq, Repr

inductive Key where
  | escape
  | letterW
  | letterO
  deriving DecidableEq, Repr

def shortcut? (key : Key) (held : Modifiers) : Option Request :=
  match key with
  | .escape => if held = ⟨false, false, false⟩ then some (.explore .clearSelection) else none
  | .letterW => if held = ⟨true, false, false⟩ then some .closeProgram else none
  | .letterO => if held = ⟨true, false, false⟩ then some .chooseFile else none

def press (app : Application) (key : Key) (held : Modifiers) : Application :=
  let app := if key = .escape then { app with openMenu := none } else app
  app.handleAll (shortcut? key held).toList

/-- The application after files were dropped on it, some of them without a path. Only the last one
is opened, since each would replace the one before. -/
def drop (app : Application) (paths : List (Option Path)) : Application :=
  app.handleAll ((paths.filterMap id).getLast?.toList.map .openFile)

def clickCanvas (app : Application) (spot : Point) : Application :=
  match app.shownPipeline? with
  | none => app
  | some loaded =>
      let response := app.canvasResponse loaded (.clicking spot false)
      { app with viewport := response.viewport }.handleAll response.requests

/-- The application after a click in the middle of the window, beside all cards. -/
def clickBeside (app : Application) : Application :=
  let shut := { app with openMenu := none }
  match app.shownPipeline? with
  | none => shut
  | some _ =>
      let click := (Canvas.PointerInput.clicking canvasArea.center false).clickOn canvasArea
      shut.handleAll (Canvas.requests [] app.session.explorer.selected click)

/-- The application after a click on a label. A menu that was open is closed by it, and another one
may open. -/
def click (app : Application) (label : Label) : Application :=
  let shut := { app with openMenu := none }
  match label.reaction with
  | .none => shut
  | .ask request => shut.handle request
  | .fold part => { shut with folds := app.folds.turn part }
  | .menu menu => if app.openMenu = some menu then shut else { shut with openMenu := some menu }
  | .canvas spot => shut.clickCanvas spot

/-- The application after the worker has answered all loads and the answers have arrived: it works
until it has to wait, and goes on when its messages have been taken. -/
def workFor (library : Loader.Library) : Nat → Application → Application
  | 0, app => app
  | rounds + 1, app =>
      workFor library rounds { app with bridge := app.bridge.work library }.receiveAll

def work (app : Application) (library : Loader.Library) : Application :=
  workFor library (app.bridge.commands.length + 1) app

def loseWorker (app : Application) : Application := { app with bridge := app.bridge.abandon }

/-- The end of the application: whether the worker was told to stop. -/
def close (app : Application) : Application × Bool :=
  match app.bridge.send .shutdown with
  | .ok bridge => ({ app with bridge }, true)
  | .error _ => (app, false)

def bodySize (app : Application) : Single := 13 * app.preferences.appearance.fontScale

end StageAtlas.Application
