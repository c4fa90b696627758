import StageAtlas.Application.State
import StageAtlas.Proofs.History

/-! # The account of a run

Everything that the application has to show follows from a log of the messages that waited for its
frames and the requests that it carried out. What the worker does meanwhile, and how the window is
looked at, leaves no entry; it only decides which messages come and which loads are refused.
-/

namespace StageAtlas

open History

namespace Application

/-- What happens while the application runs. -/
inductive Moment where
  /-- The messages that wait are taken. -/
  | frame
  | request (request : Request)
  /-- The queues, the canvas and the widgets change in any way. -/
  | beside (bridge : Loader.Bridge) (viewport : Canvas.Viewport) (folds : Folds)
      (openMenu : Option Menu)

def pass (app : Application) : Moment → Application
  | .frame => app.receiveAll
  | .request request => app.handle request
  | .beside bridge viewport folds openMenu => { app with bridge, viewport, folds, openMenu }

def live (app : Application) (moments : List Moment) : Application := moments.foldl pass app

/-- What the log tells of. -/
inductive Entry where
  | message (message : Loader.Message)
  | request (request : Request)
  /-- A load could not be queued. -/
  | refusal (failure : Failure)

/-- The entry of a request. A file is refused just when there is no worker to load it. -/
def outcome (app : Application) : Request → Entry
  | .openFile path =>
      if app.bridge.running then .request (.openFile path)
      else .refusal (.channel
        ("loader is not running (" ++ Loader.Bridge.describe (.load path) ++ ")"))
  | request => .request request

/-- The entries of a moment. In a frame these are the messages that wait for it, all of them. -/
def entries (app : Application) : Moment → List Entry
  | .frame => app.bridge.messages.map .message
  | .request request => [app.outcome request]
  | .beside _ _ _ _ => []

def log (app : Application) : List Moment → List Entry
  | [] => []
  | moment :: rest => app.entries moment ++ (app.pass moment).log rest

namespace Entry

/-- Loads and closing decide which program there is. -/
def program? : Entry → Option (Option Program)
  | message (.loaded _ program) => some (some program)
  | request .closeProgram => some none
  | _ => none

def action? : Entry → Option ExplorerAction
  | request (.explore action) => some action
  | _ => none

/-- Failures and refusals decide the error, and so do loads and dismissals, which leave none. -/
def error? : Entry → Option (Option String)
  | message (.loaded _ _) => some none
  | message (.failed _ error) => some (some ("Load failed: " ++ error))
  | refusal failure => some (some failure.message)
  | request .dismissError => some none
  | _ => none

def darkMode? : Entry → Option Bool
  | request (.setDarkMode on) => some on
  | _ => none

def orientation? : Entry → Option Orientation
  | request (.setOrientation orientation) => some orientation
  | _ => none

end Entry

/-- The program of the latest load, unless it was closed since. -/
def heldProgram (log : List Entry) : Option Program := (latest? Entry.program? log).join

def heldStages (log : List Entry) : List StageDescriptor :=
  (heldProgram log).elim [] Program.descriptors

/-- The requests to the explorer since that program came or went. -/
def heldActions (log : List Entry) : List ExplorerAction :=
  (since Entry.program? log).filterMap Entry.action?

/-- What the application shows is what the log accounts for. -/
structure Accounts (preferences : Preferences) (log : List Entry) (app : Application) : Prop where
  program : app.session.loaded = (heldProgram log).map LoadedProgram.derive
  explorer : app.session.explorer =
    Explorer.initial.run ((heldActions log).map fun action => (action, heldStages log))
  lastError : app.lastError = (latest? Entry.error? log).join
  darkMode : app.preferences.appearance.darkMode =
    (latest? Entry.darkMode? log).getD preferences.appearance.darkMode
  orientation : app.preferences.layout.orientation =
    (latest? Entry.orientation? log).getD preferences.layout.orientation

/-! ## One entry -/

def sessionAfter (session : Session) (entry : Entry) : Session :=
  match entry.program?, entry.action? with
  | some (some program), _ => session.load program
  | some none, _ => session.unload
  | none, some action => (session.dispatch action).1
  | none, none => session

/-- The second application follows from the first by one entry. -/
structure Follows (app : Application) (entry : Entry) (next : Application) : Prop where
  session : next.session = sessionAfter app.session entry
  lastError : next.lastError = entry.error?.getD app.lastError
  darkMode : next.preferences.appearance.darkMode =
    entry.darkMode?.getD app.preferences.appearance.darkMode
  orientation : next.preferences.layout.orientation =
    entry.orientation?.getD app.preferences.layout.orientation

theorem follows_receive (app : Application) (message : Loader.Message) :
    app.Follows (.message message) (app.receive message) := by
  cases message with
  | loaded source program => exact ⟨rfl, rfl, rfl, rfl⟩
  | failed source error => exact ⟨rfl, rfl, rfl, rfl⟩

theorem follows_handle (app : Application) (request : Request) :
    app.Follows (app.outcome request) (app.handle request) := by
  cases request with
  | openFile path =>
      cases hrunning : app.bridge.running with
      | true =>
          rw [outcome, if_pos hrunning, handle, Loader.Bridge.load_of_running hrunning]
          exact ⟨rfl, rfl, rfl, rfl⟩
      | false =>
          rw [outcome, hrunning, handle, Loader.Bridge.load_of_stopped hrunning]
          exact ⟨rfl, rfl, rfl, rfl⟩
  | _ => exact ⟨rfl, rfl, rfl, rfl⟩

variable {preferences : Preferences} {log : List Entry} {app next : Application} {entry : Entry}

theorem heldProgram_concat (log : List Entry) (entry : Entry) :
    heldProgram (log ++ [entry]) = entry.program?.getD (heldProgram log) := by
  rw [heldProgram, latest?_concat]
  cases entry.program? <;> rfl

theorem heldActions_concat (log : List Entry) (entry : Entry) :
    heldActions (log ++ [entry]) =
      if entry.program?.isNone then heldActions log ++ entry.action?.toList else [] := by
  rw [heldActions, since_concat]
  split
  · cases h : entry.action? <;> simp [heldActions, h]
  · rfl

theorem Accounts.stages_eq (h : Accounts preferences log app) :
    app.session.stages = heldStages log := by
  rw [Session.stages, h.program, heldStages]
  cases heldProgram log <;> rfl

/-- An entry that decides about the program starts the explorer anew; any other request to the
explorer is made of the stages that are held. -/
theorem Accounts.sessionAfter (h : Accounts preferences log app) (entry : Entry) :
    (sessionAfter app.session entry).loaded =
        (heldProgram (log ++ [entry])).map LoadedProgram.derive ∧
      (sessionAfter app.session entry).explorer =
        Explorer.initial.run ((heldActions (log ++ [entry])).map
          fun action => (action, heldStages (log ++ [entry]))) := by
  have hstages : (heldProgram log).elim [] Program.descriptors = app.session.stages :=
    h.stages_eq.symm
  rw [Application.sessionAfter, heldStages, heldProgram_concat, heldActions_concat]
  cases hprogram : entry.program? with
  | some decided => cases decided <;> exact ⟨rfl, rfl⟩
  | none =>
      cases haction : entry.action? with
      | none => simpa using ⟨h.program, h.explorer⟩
      | some action =>
          refine ⟨h.program, ?_⟩
          simp [Explorer.run_append, Session.fst_dispatch, h.explorer, hstages, h.stages_eq]

theorem Accounts.concat (h : Accounts preferences log app) (hnext : app.Follows entry next) :
    Accounts preferences (log ++ [entry]) next where
  program := by
    rw [hnext.session]
    exact (h.sessionAfter entry).1
  explorer := by
    rw [hnext.session]
    exact (h.sessionAfter entry).2
  lastError := by
    rw [hnext.lastError, h.lastError, latest?_concat]
    cases entry.error? <;> rfl
  darkMode := by
    rw [hnext.darkMode, h.darkMode, latest?_concat]
    cases entry.darkMode? <;> rfl
  orientation := by
    rw [hnext.orientation, h.orientation, latest?_concat]
    cases entry.orientation? <;> rfl

/-! ## Whole runs -/

theorem accounts_fresh (preferences : Preferences) : Accounts preferences [] (fresh preferences) :=
  ⟨rfl, rfl, rfl, rfl, rfl⟩

theorem Accounts.foldl_receive (h : Accounts preferences log app) (messages : List Loader.Message) :
    Accounts preferences (log ++ messages.map .message) (messages.foldl receive app) := by
  induction messages generalizing log app with
  | nil => simpa using h
  | cons message rest ih =>
      have hnext := h.concat (follows_receive app message)
      simpa using ih hnext

theorem Accounts.pass (h : Accounts preferences log app) (moment : Moment) :
    Accounts preferences (log ++ app.entries moment) (app.pass moment) := by
  cases moment with
  | frame =>
      have hdrained : Accounts preferences log
          { app with bridge := { app.bridge with messages := [] } } :=
        ⟨h.program, h.explorer, h.lastError, h.darkMode, h.orientation⟩
      rw [entries, Application.pass, receiveAll_eq]
      exact hdrained.foldl_receive app.bridge.messages
  | request request => exact h.concat (follows_handle app request)
  | beside bridge viewport folds openMenu =>
      rw [entries, List.append_nil]
      exact ⟨h.program, h.explorer, h.lastError, h.darkMode, h.orientation⟩

theorem Accounts.live (h : Accounts preferences log app) (moments : List Moment) :
    Accounts preferences (log ++ app.log moments) (app.live moments) := by
  induction moments generalizing log app with
  | nil =>
      rw [Application.log, List.append_nil]
      exact h
  | cons moment rest ih =>
      have hrest := ih (h.pass moment)
      rwa [List.append_assoc] at hrest

/-! ## What a load forgets -/

theorem session_handle_congr {a b : Application} (h : a.session = b.session) (request : Request) :
    (a.handle request).session = (b.handle request).session := by
  rw [(follows_handle a request).session, (follows_handle b request).session, h]
  cases request with
  | openFile path =>
      -- Whether the load is refused depends on the bridge, but neither answer touches the session.
      cases ha : a.bridge.running <;> cases hb : b.bridge.running <;>
        simp [outcome, ha, hb, sessionAfter, Entry.program?, Entry.action?]
  | _ => rfl

theorem session_run_congr {a b : Application} (h : a.session = b.session) (events : List Event) :
    (a.run events).session = (b.run events).session := by
  induction events generalizing a b with
  | nil => exact h
  | cons event rest ih =>
      rw [run_cons, run_cons]
      cases event with
      | message message =>
          apply ih
          rw [step, step, (follows_receive a message).session,
            (follows_receive b message).session, h]
      | request request => exact ih (session_handle_congr h request)

/-- A file to open at the start is the first request. -/
def opening (file : Option Path) : List Moment :=
  file.toList.map fun path => .request (.openFile path)

theorem live_start (preferences : Preferences) (file : Option Path) (moments : List Moment) :
    (start preferences file).live moments = (fresh preferences).live (opening file ++ moments) := by
  cases file <;> rfl

/-- Every run of the application is accounted for by its log, and a frame leaves no message waiting.
A failed load changes nothing but the error and the count of loads, and a load that succeeds leaves
no trace of the session before it. -/
theorem accounts_live_start (preferences : Preferences) (file : Option Path)
    (moments : List Moment) :
    let app := (start preferences file).live moments
    Accounts preferences ((fresh preferences).log (opening file ++ moments)) app ∧
      (app.pass .frame).bridge = { app.bridge with messages := [] } ∧
      (∀ source error, app.receive (.failed source error) =
        { app with
          pendingLoads := app.pendingLoads - 1
          lastError := some ("Load failed: " ++ error) }) ∧
      ∀ (other : Application) source program events,
        ((app.receive (.loaded source program)).run events).session =
          ((other.receive (.loaded source program)).run events).session := by
  intro app
  refine ⟨?_, bridge_receiveAll app, fun _ _ => rfl, fun other source program events => ?_⟩
  · have haccounts := (accounts_fresh preferences).live (opening file ++ moments)
    rwa [List.nil_append, ← live_start] at haccounts
  · have hsession : (app.receive (.loaded source program)).session =
        (other.receive (.loaded source program)).session := rfl
    exact session_run_congr hsession events

/-- A load, a failed one and another load, with requests in between. Then the worker is gone, a file
is refused, and a message waits that no frame has taken yet. -/
theorem accounts_live_start_reloaded :
    let first := Program.decode (.obj [("start", .obj [("type", .str "parser")])])
    let second := Program.decode (.obj [("route", .obj [("type", .str "control")])])
    let carrying (messages : List Loader.Message) (running : Bool) : Moment :=
      .beside ⟨[], none, messages, running⟩ .standard .fresh none
    let moments : List Moment :=
      [carrying [.loaded "a.json" first] true, .frame, .request (.explore (.selectStage ⟨"start"⟩)),
        .request (.setDarkMode false),
        carrying [.failed "b.json" "gone", .loaded "c.json" second] true, .frame,
        .request (.explore (.selectStage ⟨"route"⟩)), .request (.explore (.setTab .tables)),
        .request (.setOrientation .horizontal), carrying [.failed "d.json" "late"] false,
        .request (.openFile "e.json")]
    let app := (start .standard (some "a.json")).live moments
    (fresh .standard).log (opening (some "a.json") ++ moments) =
        [.request (.openFile "a.json"), .message (.loaded "a.json" first),
          .request (.explore (.selectStage ⟨"start"⟩)), .request (.setDarkMode false),
          .message (.failed "b.json" "gone"), .message (.loaded "c.json" second),
          .request (.explore (.selectStage ⟨"route"⟩)), .request (.explore (.setTab .tables)),
          .request (.setOrientation .horizontal),
          .refusal (.channel "loader is not running (LoadFile(\"e.json\"))")] ∧
      app.session.loaded = some (.derive second) ∧
      app.session.explorer = ⟨.pipeline, some ⟨"route"⟩, .tables, true⟩ ∧
      app.lastError =
        some (Failure.channel "loader is not running (LoadFile(\"e.json\"))").message ∧
      app.preferences.appearance.darkMode = false ∧
      app.preferences.layout.orientation = .horizontal ∧
      app.bridge.messages = [.failed "d.json" "late"] ∧ (app.pass .frame).bridge.messages = [] := by
  intro first second carrying moments app
  have hrefused : "loader is not running (" ++ Loader.Bridge.describe (.load "e.json") ++ ")" =
      "loader is not running (LoadFile(\"e.json\"))" := by decide +kernel
  have hlog : (fresh .standard).log (opening (some "a.json") ++ moments) =
      [.request (.openFile "a.json"), .message (.loaded "a.json" first),
        .request (.explore (.selectStage ⟨"start"⟩)), .request (.setDarkMode false),
        .message (.failed "b.json" "gone"), .message (.loaded "c.json" second),
        .request (.explore (.selectStage ⟨"route"⟩)), .request (.explore (.setTab .tables)),
        .request (.setOrientation .horizontal),
        .refusal (.channel "loader is not running (LoadFile(\"e.json\"))")] := by
    rw [← hrefused]
    rfl
  obtain ⟨haccounts, hframe, -, -⟩ := accounts_live_start .standard (some "a.json") moments
  rw [hlog] at haccounts
  refine ⟨hlog, haccounts.program, haccounts.explorer.trans ?_, haccounts.lastError,
    haccounts.darkMode, haccounts.orientation, rfl, ?_⟩
  · decide +kernel
  · rw [hframe]

end Application

end StageAtlas
