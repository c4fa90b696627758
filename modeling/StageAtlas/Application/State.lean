import StageAtlas.Loader.Bridge
import StageAtlas.Preferences.Basic
import StageAtlas.Session
import StageAtlas.View.Canvas.Frame
import StageAtlas.View.Label

/-!
# The application

The application holds the session, the preferences and the bridge to the loading worker. Two things
change it: the messages that the worker delivers, and the requests of the views.
-/

namespace StageAtlas

structure Application where
  bridge : Loader.Bridge
  pendingLoads : Nat
  preferences : Preferences
  session : Session
  lastError : Option String
  viewport : Canvas.Viewport
  folds : Folds
  openMenu : Option Menu

namespace Application

def fresh (preferences : Preferences) : Application :=
  ⟨.fresh, 0, preferences, .fresh, none, .standard, .fresh, none⟩

/-- The application after a request was carried out. A load that cannot be queued is an error. The
choice of a file belongs to the desktop: what is chosen comes back as a file to open. -/
def handle (app : Application) : Request → Application
  | .explore action => { app with session := (app.session.dispatch action).1 }
  | .chooseFile => app
  | .openFile path =>
      match app.bridge.load path with
      | .ok bridge => { app with bridge, pendingLoads := app.pendingLoads + 1 }
      | .error failure => { app with lastError := some failure.message }
  | .closeProgram => { app with session := app.session.unload, viewport := .standard }
  | .setDarkMode on =>
      { app with
        preferences :=
          { app.preferences with
            appearance := { app.preferences.appearance with darkMode := on } } }
  | .setOrientation orientation =>
      { app with
        preferences :=
          { app.preferences with layout := { app.preferences.layout with orientation } }
        viewport := .standard }
  | .resetCanvas => { app with viewport := .standard }
  | .dismissError => { app with lastError := none }

/-- The application after a message of the worker. A failure leaves the program as it is. -/
def receive (app : Application) (message : Loader.Message) : Application :=
  let app := { app with pendingLoads := app.pendingLoads - 1 }
  match message with
  | .loaded _ program =>
      { app with session := app.session.load program, viewport := .standard, lastError := none }
  | .failed _ error => { app with lastError := some ("Load failed: " ++ error) }

@[simp] theorem bridge_receive (app : Application) (message : Loader.Message) :
    (app.receive message).bridge = app.bridge := by
  cases message <;> rfl

@[simp] theorem pendingLoads_receive (app : Application) (message : Loader.Message) :
    (app.receive message).pendingLoads = app.pendingLoads - 1 := by
  cases message <;> rfl

theorem bridge_foldl_receive (app : Application) (messages : List Loader.Message) :
    (messages.foldl receive app).bridge = app.bridge := by
  induction messages generalizing app with
  | nil => rfl
  | cons message rest ih => rw [List.foldl_cons, ih, bridge_receive]

def receiveAll (app : Application) : Application :=
  let (messages, bridge) := app.bridge.drain
  messages.foldl receive { app with bridge }

theorem receiveAll_eq (app : Application) :
    app.receiveAll =
      app.bridge.messages.foldl receive
        { app with bridge := { app.bridge with messages := [] } } :=
  rfl

theorem bridge_receiveAll (app : Application) :
    app.receiveAll.bridge = { app.bridge with messages := [] } := by
  rw [receiveAll_eq, bridge_foldl_receive]

def handleAll (app : Application) (requests : List Request) : Application :=
  requests.foldl handle app

/-- What happens to an application: a message arrives, or a request is carried out. -/
inductive Event where
  | message (message : Loader.Message)
  | request (request : Request)

def step (app : Application) : Event → Application
  | .message message => app.receive message
  | .request request => app.handle request

def run (app : Application) (events : List Event) : Application := events.foldl step app

@[simp] theorem run_nil (app : Application) : app.run [] = app := rfl

@[simp] theorem run_cons (app : Application) (event : Event) (events : List Event) :
    app.run (event :: events) = (app.step event).run events := rfl

def start (preferences : Preferences) (file : Option Path) : Application :=
  (fresh preferences).handleAll (file.toList.map .openFile)

end Application

end StageAtlas
